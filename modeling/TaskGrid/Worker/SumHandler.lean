/-
  TaskGrid.Worker.SumHandler — sum_handler.handle under Python's limit on digits.

  `SumHandler.handle` refuses what the interpreter refuses: `int` and `str`
  raise ValueError beyond 4300 digits.  A payload of at most so many
  characters meets neither limit (`handle_eq_sumHandle`), so on everything
  PostTask lets through the function is `sumHandle`, which adds up the
  literals between the commas (`sumHandle_eq_ok_iff`).
-/
import TaskGrid.Dispatcher.StateMachine
import TaskGrid.Lib.Fields
import TaskGrid.Worker.PythonInt

namespace TaskGrid

open TaskGrid.Lib

/-! ## §1. The handler. -/

/-- `sys.get_int_max_str_digits()` where nothing has set it. -/
def maxStrDigits : Nat := 4300

/-- `payload.split(",")` -/
def fields (payload : String) : List (List Char) := payload.toList.splitOn ','

/-- `int(s)`, with its limit on digits. -/
def parseIntLimited (cs : List Char) : Option Int :=
  if cs.countP (fun c => (decimal? c).isSome) > maxStrDigits then none else parseInt cs

/-- `str(n)`, with its limit on digits; none is its ValueError. -/
def strLimited (n : Int) : Option String :=
  if (Nat.toDigits 10 n.natAbs).length > maxStrDigits then none else some (str n)

/-- `handle`.  The sum is printed outside the try block, so the ValueError of `str` keeps its
text. -/
def SumHandler.handle (payload : String) : Except String String :=
  match (fields payload).mapM fun number => parseIntLimited (strip number) with
  | none => .error ("Ungültige Zahlenliste: '" ++ payload ++ "'")
  | some numbers =>
      match strLimited numbers.sum with
      | none => .error ("Exceeds the limit (4300 digits) for integer string conversion; " ++
          "use sys.set_int_max_str_digits() to increase the limit")
      | some result => .ok result

/-! ## §2. The fields of a payload. -/

/-- The fields and the commas between them are the whole payload. -/
theorem intercalate_fields (payload : String) :
    [','].intercalate (fields payload) = payload.toList :=
  List.intercalate_splitOn ','

theorem fields_ne_nil (payload : String) : fields payload ≠ [] := List.splitOn_ne_nil _ _

/-- Two payloads joined by a comma have the fields of both. -/
theorem fields_append (p q : String) : fields (p ++ "," ++ q) = fields p ++ fields q := by
  have htoList : (p ++ "," ++ q).toList = p.toList ++ ',' :: q.toList := by
    rw [String.toList_append, String.toList_append, List.append_assoc]
    rfl
  unfold fields
  rw [htoList]
  exact List.splitOn_append_cons_self p.toList q.toList

theorem length_field_le {payload : String} {field : List Char} (h : field ∈ fields payload) :
    field.length ≤ payload.length := by
  have hle := length_le_intercalate [','] h
  rw [intercalate_fields, String.length_toList] at hle
  exact hle

/-! ## §3. The numbers of a payload. -/

/-- The field is a literal of the number, with white space around it. -/
def FieldOf (field : List Char) (n : Int) : Prop := IntLiteral (strip field) n

/-- `sumHandle` reads the fields. -/
theorem sumHandle_eq (payload : String) : sumHandle payload =
    match (fields payload).mapM fun number => parseInt (strip number) with
    | none => .error ("Ungültige Zahlenliste: '" ++ payload ++ "'")
    | some numbers => .ok (str numbers.sum) := rfl

theorem mapM_fields_eq_some_iff {payload : String} {numbers : List Int} :
    ((fields payload).mapM fun number => parseInt (strip number)) = some numbers ↔
      List.Forall₂ FieldOf (fields payload) numbers := by
  rw [mapM_eq_some_iff]
  simp only [parseInt_strip_eq_some_iff]
  rfl

/-- **`sumHandle` returns the sum exactly when every field is a literal.** -/
theorem sumHandle_eq_ok_iff {payload result : String} : sumHandle payload = .ok result ↔
    ∃ numbers, List.Forall₂ FieldOf (fields payload) numbers ∧ result = str numbers.sum := by
  simp only [← mapM_fields_eq_some_iff]
  rw [sumHandle_eq]
  cases (fields payload).mapM fun number => parseInt (strip number) with
  | none =>
      constructor
      · intro h
        cases h
      · rintro ⟨numbers, hnumbers, _⟩
        cases hnumbers
  | some numbers =>
      constructor
      · intro h
        exact ⟨numbers, rfl, (Except.ok.inj h).symm⟩
      · rintro ⟨_, hnumbers, rfl⟩
        rw [Option.some.inj hnumbers]

/-- **It raises exactly when some field is no literal.** -/
theorem sumHandle_error_iff {payload : String} : (∃ e, sumHandle payload = .error e) ↔
    ∃ field ∈ fields payload, ¬ ∃ n, FieldOf field n := by
  constructor
  · rintro ⟨e, he⟩
    by_contra hall
    push Not at hall
    obtain ⟨numbers, hnumbers⟩ := exists_forall₂_iff.mpr hall
    rw [sumHandle_eq_ok_iff.mpr ⟨numbers, hnumbers, rfl⟩] at he
    cases he
  · rintro ⟨field, hfield, hno⟩
    cases h : sumHandle payload with
    | error e => exact ⟨e, rfl⟩
    | ok result =>
        obtain ⟨numbers, hnumbers, _⟩ := sumHandle_eq_ok_iff.mp h
        exact absurd (exists_forall₂_iff.mp ⟨numbers, hnumbers⟩ field hfield) hno

/-! ## §4. The limit on digits. -/

/-- The value of a field is bounded by its length. -/
theorem FieldOf.natAbs_lt {field : List Char} {n : Int} (h : FieldOf field n) :
    n.natAbs < 10 ^ field.length :=
  Nat.lt_of_lt_of_le (IntLiteral.natAbs_lt h)
    (Nat.pow_le_pow_right (by decide) (length_stripWhile_le isSpace field))

/-- The sum of the values is bounded by the length of the whole. -/
theorem natAbs_sum_lt {fs : List (List Char)} {numbers : List Int}
    (h : List.Forall₂ FieldOf fs numbers) (hne : fs ≠ []) :
    numbers.sum.natAbs < 10 ^ ([','].intercalate fs).length := by
  -- a comma and a second summand
  have hshift : ∀ {a b j k : Nat}, a < 10 ^ j → b < 10 ^ k → a + b < 10 ^ (j + 1 + k) := by
    intro a b j k ha hb
    have hj : 10 ^ j ≤ 10 ^ (j + k) := Nat.pow_le_pow_right (by decide) (Nat.le_add_right j k)
    have hk : 10 ^ k ≤ 10 ^ (j + k) := Nat.pow_le_pow_right (by decide) (Nat.le_add_left k j)
    rw [show j + 1 + k = j + k + 1 by omega, Nat.pow_succ]
    omega
  induction h with
  | nil => exact absurd rfl hne
  | @cons field n fs numbers hfield hfields ih =>
      rw [List.sum_cons]
      cases hfields with
      | nil =>
          rw [List.intercalate_singleton, List.sum_nil, Int.add_zero]
          exact hfield.natAbs_lt
      | cons hsecond hrest =>
          have hrest' := ih (List.cons_ne_nil _ _)
          rw [List.intercalate_cons_cons, List.length_append, List.length_append]
          exact Nat.lt_of_le_of_lt (Int.natAbs_add_le _ _) (hshift hfield.natAbs_lt hrest')

/-- **A payload of at most `maxStrDigits` characters meets no limit.** -/
theorem handle_eq_sumHandle {payload : String} (h : payload.length ≤ maxStrDigits) :
    SumHandler.handle payload = sumHandle payload := by
  have hint : ((fields payload).mapM fun number => parseIntLimited (strip number)) =
      (fields payload).mapM fun number => parseInt (strip number) := by
    refine mapM_congr ?_
    intro field hfield
    have hcount := List.countP_le_length (p := fun c => (decimal? c).isSome) (l := strip field)
    have hstrip : (strip field).length ≤ field.length := length_stripWhile_le isSpace field
    have hlen := length_field_le hfield
    unfold parseIntLimited
    rw [if_neg (by omega)]
  have hstr : ∀ numbers, List.Forall₂ FieldOf (fields payload) numbers →
      strLimited numbers.sum = some (str numbers.sum) := by
    intro numbers hnumbers
    have hsum := natAbs_sum_lt hnumbers (fields_ne_nil payload)
    rw [intercalate_fields, String.length_toList] at hsum
    have hlt := Nat.lt_of_lt_of_le hsum (Nat.pow_le_pow_right (by decide) h)
    have hdigits := (Nat.length_toDigits_le_iff (b := 10) (by decide) (by decide)).mpr hlt
    unfold strLimited
    rw [if_neg (Nat.not_lt.mpr hdigits)]
  unfold SumHandler.handle
  rw [hint, sumHandle_eq]
  cases hl : (fields payload).mapM fun number => parseInt (strip number) with
  | none => rfl
  | some numbers =>
      have hprint := hstr numbers (mapM_fields_eq_some_iff.mp hl)
      simp only [hprint]

/-! ## §5. Printed lists. -/

/-- An integer literal with the white space around it. -/
structure PaddedInt where
  before : List Char
  literal : List Char
  after : List Char
  value : Int
  isLiteral : IntLiteral literal value
  isSpace_before : ∀ c ∈ before, isSpace c = true
  isSpace_after : ∀ c ∈ after, isSpace c = true

namespace PaddedInt

variable (x : PaddedInt)

/-- The field of the integer. -/
def chars : List Char := x.before ++ x.literal ++ x.after

theorem fieldOf_chars : FieldOf x.chars x.value := by
  unfold FieldOf chars
  rw [x.isLiteral.strip_padded x.isSpace_before x.isSpace_after]
  exact x.isLiteral

theorem comma_not_mem_chars : ',' ∉ x.chars := by
  have hspace : ∀ {cs : List Char}, (∀ c ∈ cs, isSpace c = true) → ',' ∉ cs := by
    intro cs hcs hmem
    exact absurd (hcs ',' hmem) (by decide)
  intro hmem
  rcases List.mem_append.mp hmem with hmem | hmem
  · rcases List.mem_append.mp hmem with hmem | hmem
    · exact hspace x.isSpace_before hmem
    · exact x.isLiteral.comma_not_mem hmem
  · exact hspace x.isSpace_after hmem

/-- The integers joined by commas. -/
def joined (xs : List PaddedInt) : String := String.ofList ([','].intercalate (xs.map chars))

/-- Splitting a joined list gives its integers back. -/
theorem fields_joined {xs : List PaddedInt} (hne : xs ≠ []) : fields (joined xs) = xs.map chars := by
  unfold fields joined
  rw [String.toList_ofList]
  refine List.splitOn_intercalate ',' ?_ ?_
  · intro field hfield
    obtain ⟨x, _, rfl⟩ := List.mem_map.mp hfield
    exact x.comma_not_mem_chars
  · intro hnil
    exact hne (List.map_eq_nil_iff.mp hnil)

/-- **Of a joined list `sumHandle` returns the sum.** -/
theorem sumHandle_joined {xs : List PaddedInt} (hne : xs ≠ []) :
    sumHandle (joined xs) = .ok (str (xs.map value).sum) := by
  refine sumHandle_eq_ok_iff.mpr ⟨xs.map value, ?_, rfl⟩
  rw [fields_joined hne, List.forall₂_map_left_iff, List.forall₂_map_right_iff, List.forall₂_same]
  intro x _
  exact x.fieldOf_chars

end PaddedInt

/-! ## §6. What the handler computes. -/

/-- Of nothing there is no literal. -/
theorem not_fieldOf_of_strip_eq_nil {field : List Char} (h : strip field = []) :
    ¬ ∃ n, FieldOf field n := by
  rintro ⟨n, hn⟩
  unfold FieldOf at hn
  rw [h] at hn
  cases hn with
  | unsigned h =>
      obtain ⟨c, d, rest, heq, _⟩ := h.exists_first
      cases heq

/-- The sums of two payloads add up. -/
theorem sumHandle_append {p q a b : String} (hp : sumHandle p = .ok a) (hq : sumHandle q = .ok b) :
    ∃ m n, int? a = some m ∧ int? b = some n ∧ sumHandle (p ++ "," ++ q) = .ok (str (m + n)) := by
  obtain ⟨ms, hms, rfl⟩ := sumHandle_eq_ok_iff.mp hp
  obtain ⟨ns, hns, rfl⟩ := sumHandle_eq_ok_iff.mp hq
  refine ⟨ms.sum, ns.sum, int?_str _, int?_str _, ?_⟩
  refine sumHandle_eq_ok_iff.mpr ⟨ms ++ ns, ?_, ?_⟩
  · rw [fields_append]
    exact List.rel_append hms hns
  · rw [List.sum_append]

/-- **The handler computes the sum of its list and accepts integer lists only.**  On payloads
PostTask lets through: of a list of literals, such as `str` prints them, it returns the sum; it
raises exactly when some field, stripped, is no literal, as with an empty payload, an empty field
or a comma at the end; and of two payloads it accepts, joined by a comma, it returns the sum of
both sums. -/
theorem SumHandler.handle_computes_sum :
    (∀ xs : List PaddedInt, xs ≠ [] → (PaddedInt.joined xs).length ≤ maxPayloadLen →
      handle (PaddedInt.joined xs) = .ok (str (xs.map PaddedInt.value).sum))
    ∧ (∀ n : Int, IntLiteral (str n).toList n)
    ∧ (∀ payload : String, payload.length ≤ maxPayloadLen →
        ((∃ e, handle payload = .error e) ↔
          ∃ field ∈ fields payload, ¬ ∃ n, IntLiteral (strip field) n))
    ∧ (∃ e, handle "" = .error e)
    ∧ (∀ payload : String, payload.length ≤ maxPayloadLen →
        (∃ field ∈ fields payload, strip field = []) → ∃ e, handle payload = .error e)
    ∧ (∀ p : String, (p ++ ",").length ≤ maxPayloadLen → ∃ e, handle (p ++ ",") = .error e)
    ∧ (∀ p q a b : String, p.length ≤ maxPayloadLen → q.length ≤ maxPayloadLen →
        handle p = .ok a → handle q = .ok b →
          ∃ m n, int? a = some m ∧ int? b = some n ∧
            handle (p ++ "," ++ q) = .ok (str (m + n))) := by
  have hlimit : ∀ {payload : String}, payload.length ≤ maxPayloadLen →
      handle payload = sumHandle payload := by
    intro payload h
    exact handle_eq_sumHandle (Nat.le_trans h (by decide))
  have hempty : ∀ {payload : String}, payload.length ≤ maxPayloadLen →
      (∃ field ∈ fields payload, strip field = []) → ∃ e, handle payload = .error e := by
    rintro payload h ⟨field, hfield, hstrip⟩
    rw [hlimit h]
    exact sumHandle_error_iff.mpr ⟨field, hfield, not_fieldOf_of_strip_eq_nil hstrip⟩
  have hnil : fields "" = [[]] := List.splitOn_nil ','
  refine ⟨?_, intLiteral_str, ?_, ?_, fun _ => hempty, ?_, ?_⟩
  · intro xs hne h
    rw [hlimit h]
    exact PaddedInt.sumHandle_joined hne
  · intro payload h
    rw [hlimit h]
    exact sumHandle_error_iff
  · refine hempty (by decide) ⟨[], ?_, rfl⟩
    rw [hnil]
    exact List.mem_singleton_self []
  · intro p h
    refine hempty h ⟨[], ?_, rfl⟩
    have happend : p ++ "," = p ++ "," ++ "" := (String.append_empty).symm
    rw [happend, fields_append, hnil]
    exact List.mem_append_right _ (List.mem_singleton_self [])
  · intro p q a b hp hq ha hb
    rw [hlimit hp] at ha
    rw [hlimit hq] at hb
    have hlen : (p ++ "," ++ q).length ≤ maxStrDigits := by
      have hcomma : ",".length = 1 := rfl
      have hmax : maxPayloadLen + 1 + maxPayloadLen ≤ maxStrDigits := by decide
      rw [String.length_append, String.length_append, hcomma]
      omega
    rw [handle_eq_sumHandle hlen]
    exact sumHandle_append ha hb

example : SumHandler.handle "1,2," = .error "Ungültige Zahlenliste: '1,2,'" := by decide

end TaskGrid
