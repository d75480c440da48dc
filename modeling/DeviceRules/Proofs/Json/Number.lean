import DeviceRules.Json.Writer
import DeviceRules.Proofs.Decimal.Shortest
import DeviceRules.Proofs.Json.Read

/-! Numbers that are written and read again. Every digit that is written is read as it stands, so a number that is
written is read as one, whatever follows it inside a document. -/
namespace DeviceRules.Json

open Decimal

/-- What may follow a value inside a document. -/
def closes : List Char → Bool
  | [] => true
  | c :: _ => c == ',' || c == ']' || c == '\x7d'

theorem startsDigit_of_closes {rest : List Char} (ends : closes rest = true) : startsDigit rest = false := by
  cases rest with
  | nil => rfl
  | cons c rest =>
      simp only [closes, Bool.or_eq_true, beq_iff_eq] at ends
      obtain (rfl | rfl) | rfl := ends <;> rfl

theorem digit?_of_isDigit {c : Char} (digit : c.isDigit = true) : digit? c = some (c.toNat - '0'.toNat) := if_pos digit

theorem digit?_of_not_isDigit {c : Char} (other : c.isDigit = false) : digit? c = none := by
  rw [digit?, other]
  rfl

theorem le_ofDigitChars (ds : List Char) (n : Nat) : n ≤ Nat.ofDigitChars 10 ds n := by
  rw [Nat.ofDigitChars_eq_ofDigitChars_zero]
  have power : 0 < 10 ^ ds.length := Nat.pow_pos (by norm_num)
  exact (Nat.le_mul_of_pos_left n power).trans (Nat.le_add_right _ _)

theorem needDigit_append {ds : List Char} (digits : ∀ c ∈ ds, c.isDigit = true) (nonempty : ds ≠ [])
    (rest : List Char) : needDigit (ds ++ rest) = .ok () := by
  obtain ⟨c, ds, rfl⟩ := List.exists_cons_of_ne_nil nonempty
  exact if_pos (digits c List.mem_cons_self)

section Runs

variable {ds rest : List Char} (digits : ∀ c ∈ ds, c.isDigit = true) (after : startsDigit rest = false)
include digits after

theorem wholeDigits_append {n : Nat} {e : Int} (fits : Nat.ofDigitChars 10 ds n < UInt64.size) :
    wholeDigits ⟨n, e⟩ false (ds ++ rest) = (⟨Nat.ofDigitChars 10 ds n, e⟩, false, rest) := by
  induction ds generalizing n with
  | nil =>
      cases rest with
      | nil => rfl
      | cons c rest => simp only [List.nil_append, wholeDigits, digit?_of_not_isDigit after, Nat.ofDigitChars_nil]
  | cons c ds ih =>
      obtain ⟨digit, digits⟩ := List.forall_mem_cons.mp digits
      rw [Nat.ofDigitChars_cons, Nat.mul_comm] at fits
      have enough : (Scaled.mk n e).fits (c.toNat - '0'.toNat) = true :=
        decide_eq_true ((le_ofDigitChars ds _).trans_lt fits)
      simp only [List.cons_append, wholeDigits, digit?_of_isDigit digit, enough, Bool.not_true, Bool.or_false,
        Bool.false_eq_true, if_false]
      rw [ih digits fits, Nat.ofDigitChars_cons, Nat.mul_comm]

theorem fractionDigits_append {n : Nat} {e : Int} (fits : Nat.ofDigitChars 10 ds n < UInt64.size) :
    fractionDigits ⟨n, e⟩ false (ds ++ rest) = (⟨Nat.ofDigitChars 10 ds n, e - ds.length⟩, rest) := by
  induction ds generalizing n e with
  | nil =>
      cases rest with
      | nil => simp [fractionDigits]
      | cons c rest => simp [fractionDigits, digit?_of_not_isDigit after]
  | cons c ds ih =>
      obtain ⟨digit, digits⟩ := List.forall_mem_cons.mp digits
      rw [Nat.ofDigitChars_cons, Nat.mul_comm] at fits
      have enough : (Scaled.mk n e).fits (c.toNat - '0'.toNat) = true :=
        decide_eq_true ((le_ofDigitChars ds _).trans_lt fits)
      have place : e - 1 - ds.length = e - (ds.length + 1 : Nat) := by omega
      simp only [List.cons_append, fractionDigits, digit?_of_isDigit digit, enough, Bool.not_true, Bool.or_false,
        Bool.false_eq_true, if_false]
      rw [ih digits fits, Nat.ofDigitChars_cons, Nat.mul_comm, place, List.length_cons]

theorem natural_append : natural (ds ++ rest) = (Nat.ofDigitChars 10 ds 0, rest) := by
  have taken : (ds ++ rest).takeWhile Char.isDigit = ds ∧ (ds ++ rest).dropWhile Char.isDigit = rest := by
    rw [List.takeWhile_append_of_pos digits, List.dropWhile_append_of_pos digits]
    cases rest with
    | nil => simp
    | cons c rest =>
        have other : c.isDigit = false := after
        simp [other]
  rw [natural, taken.1, taken.2]
  rfl

theorem readExponent_append (negative : Bool) (nonempty : ds ≠ []) :
    readExponent ((if negative then '-' else '+') :: ds ++ rest) =
      .ok ((if negative then -1 else 1) * (Nat.ofDigitChars 10 ds 0 : Int), rest) := by
  have read := natural_append digits after
  cases negative <;> simp [readExponent, needDigit_append digits nonempty, read]

end Runs

/-- The digits of a whole number as they are written: a zero in front stands alone. -/
structure IsWhole (ds : List Char) : Prop where
  digits : ∀ c ∈ ds, c.isDigit = true
  nonempty : ds ≠ []
  leading : ∀ rest, ds = '0' :: rest → rest = []

def sign (negative : Bool) : List Char := if negative then ['-'] else []

theorem readNumber_sign (negative : Bool) {c : Char} (digit : c.isDigit = true) (rest : List Char) :
    readNumber (sign negative ++ c :: rest) = readUnsigned negative (c :: rest) := by
  have other : c ≠ '-' := by
    rintro rfl
    cases digit
  cases negative with
  | true => rfl
  | false =>
      rw [sign, if_neg Bool.false_ne_true, List.nil_append, readNumber]
      · exact if_pos digit
      · exact fun same => other same

section Parts

variable {ds tail : List Char} (isWhole : IsWhole ds)
include isWhole

theorem readWhole_append (after : startsDigit tail = false) (fits : Nat.ofDigitChars 10 ds 0 < UInt64.size) :
    readWhole (ds ++ tail) = .ok (⟨Nat.ofDigitChars 10 ds 0, 0⟩, false, tail) := by
  obtain ⟨digits, nonempty, leading⟩ := isWhole
  obtain ⟨c, rest, rfl⟩ := List.exists_cons_of_ne_nil nonempty
  by_cases zero : c = '0'
  · subst zero
    obtain rfl := leading rest rfl
    change (if startsDigit tail then _ else _) = _
    rw [after]
    rfl
  · have read := wholeDigits_append digits after (e := 0) fits
    rw [readWhole]
    · rw [needDigit_append digits nonempty, Except.ok_bind, read, Except.pure_eq_ok]
    · rintro rest ⟨rfl, -⟩
      exact zero rfl

theorem readNumber_append (negative : Bool) :
    readNumber (sign negative ++ (ds ++ tail)) = readUnsigned negative (ds ++ tail) := by
  obtain ⟨c, rest, rfl⟩ := List.exists_cons_of_ne_nil isWhole.nonempty
  exact readNumber_sign negative (isWhole.digits c List.mem_cons_self) (rest ++ tail)

/-- A number without point and exponent. -/
theorem readNumber_whole (negative : Bool) (ends : closes tail = true)
    (fits : Nat.ofDigitChars 10 ds 0 < UInt64.size) :
    readNumber (sign negative ++ (ds ++ tail)) =
      .ok (if !negative then whole (Nat.ofDigitChars 10 ds 0)
        else if 0 < Nat.ofDigitChars 10 ds 0 && Nat.ofDigitChars 10 ds 0 ≤ 0x8000000000000000 then
          whole (-Nat.ofDigitChars 10 ds 0)
        else real (-Float.ofNat (Nat.ofDigitChars 10 ds 0)), tail) := by
  rw [readNumber_append isWhole, readUnsigned, readWhole_append isWhole (startsDigit_of_closes ends) fits,
    Except.ok_bind]
  dsimp only
  split
  case h_1 => cases ends
  case h_2 => cases ends
  case h_3 => cases ends
  case h_4 =>
    cases negative with
    | false => rfl
    | true =>
        simp only [Bool.not_true, Bool.false_eq_true, if_false, if_true]
        split <;> rfl

/-- A number with a point. -/
theorem readNumber_fraction (negative : Bool) {fs : List Char} (digits : ∀ c ∈ fs, c.isDigit = true)
    (nonempty : fs ≠ []) (after : startsDigit tail = false) (fits : Nat.ofDigitChars 10 (ds ++ fs) 0 < UInt64.size) :
    readNumber (sign negative ++ (ds ++ '.' :: (fs ++ tail))) =
      (readDouble ⟨Nat.ofDigitChars 10 (ds ++ fs) 0, -fs.length⟩ tail).map
        fun (x, rest) => (real (if negative then -x else x), rest) := by
  rw [Nat.ofDigitChars_append] at fits ⊢
  have fraction := fractionDigits_append digits after (e := 0) fits
  rw [Int.zero_sub] at fraction
  rw [readNumber_append isWhole, readUnsigned, readWhole_append isWhole rfl ((le_ofDigitChars fs _).trans_lt fits),
    Except.ok_bind]
  simp only [needDigit_append digits nonempty, Except.ok_bind, fraction]

/-- A number with an exponent and no point. -/
theorem readNumber_power (negative : Bool) (fits : Nat.ofDigitChars 10 ds 0 < UInt64.size) :
    readNumber (sign negative ++ (ds ++ 'e' :: tail)) =
      (readDouble ⟨Nat.ofDigitChars 10 ds 0, 0⟩ ('e' :: tail)).map
        fun (x, rest) => (real (if negative then -x else x), rest) := by
  rw [readNumber_append isWhole, readUnsigned, readWhole_append isWhole rfl fits, Except.ok_bind]
  rfl

end Parts

theorem readDouble_of_closes {s : Scaled} {x : Float} (found : s.toFloat? = some x) {rest : List Char}
    (ends : closes rest = true) : readDouble s rest = .ok (x, rest) := by
  unfold readDouble
  split
  case h_1 => cases ends
  case h_2 => cases ends
  case h_3 =>
    rw [Scaled.toFloat, found]
    rfl

theorem readDouble_power {s : Scaled} (negative : Bool) {ds rest : List Char} (digits : ∀ c ∈ ds, c.isDigit = true)
    (nonempty : ds ≠ []) (after : startsDigit rest = false) {x : Float}
    (found : (Scaled.mk s.significand
      (s.exponent + (if negative then -1 else 1) * (Nat.ofDigitChars 10 ds 0 : Int))).toFloat? = some x) :
    readDouble s ('e' :: ((if negative then '-' else '+') :: ds ++ rest)) = .ok (x, rest) := by
  rw [readDouble, readExponent_append digits after negative nonempty, Except.ok_bind]
  simp only [Scaled.toFloat, found]
  rfl

/-- Whether a text is read as a double wherever a document holds it. -/
def ReadsDouble (cs : List Char) : Prop :=
  ∃ x, ∀ rest, closes rest = true → readNumber (cs ++ rest) = .ok (real x, rest)

section Doubles

variable {ds fs : List Char} (negative : Bool)

/-- Any number with a point and no exponent is read: it is no larger than its significand. -/
theorem readsDouble_fraction (isWhole : IsWhole ds) (digits : ∀ c ∈ fs, c.isDigit = true) (nonempty : fs ≠ [])
    (fits : Nat.ofDigitChars 10 (ds ++ fs) 0 < UInt64.size) : ReadsDouble (sign negative ++ (ds ++ '.' :: fs)) := by
  have small : (Scaled.mk (Nat.ofDigitChars 10 (ds ++ fs) 0) (-fs.length)).toFloat?.isSome = true := by
    apply isSome_toFloat?
    intro nonneg
    have := List.length_pos_iff.mpr nonempty
    simp only at nonneg
    omega
  obtain ⟨x, found⟩ := Option.isSome_iff_exists.mp small
  refine ⟨if negative then -x else x, fun rest ends => ?_⟩
  rw [List.append_assoc, List.append_assoc, List.cons_append,
    readNumber_fraction isWhole negative digits nonempty (startsDigit_of_closes ends) fits,
    readDouble_of_closes found ends]
  rfl

theorem isDigit_toDigits {n : Nat} : ∀ c ∈ Nat.toDigits 10 n, c.isDigit = true :=
  fun _ => Nat.isDigit_of_mem_toDigits (by norm_num) (by norm_num)

theorem isDigit_zeros {count : Nat} : ∀ c ∈ zeros count, c.isDigit = true := by
  intro c zero
  obtain rfl := List.eq_of_mem_replicate zero
  rfl

/-- The first digit of a number is no zero. -/
theorem toDigits_leading {n : Nat} {rest : List Char} (leading : Nat.toDigits 10 n = '0' :: rest) : n = 0 := by
  induction n using Nat.strongRecOn generalizing rest with
  | ind n ih =>
      rw [Nat.toDigits_eq_if (by norm_num)] at leading
      split at leading
      case isTrue small =>
        have digit : n.digitChar = '0' := (List.cons.inj leading).1
        interval_cases n <;> first | rfl | cases digit
      case isFalse large =>
        obtain ⟨c, more, first⟩ := List.exists_cons_of_ne_nil (Nat.toDigits_ne_nil (n := n / 10) (b := 10))
        rw [first] at leading
        obtain rfl : c = '0' := (List.cons.inj leading).1
        have := ih (n / 10) (by omega) first
        omega

theorem isWhole_zero : IsWhole ['0'] where
  digits := @isDigit_zeros 1
  nonempty := List.cons_ne_nil _ _
  leading := fun _ same => (List.cons.inj same).2.symm

theorem isWhole_toDigits (n : Nat) : IsWhole (Nat.toDigits 10 n) where
  digits := isDigit_toDigits
  nonempty := Nat.toDigits_ne_nil
  leading := by
    intro rest leading
    obtain rfl := toDigits_leading leading
    exact (List.cons.inj leading).2.symm

/-- The digits of a number stay without a zero in front when further ones are added or some at the end are dropped. -/
theorem IsWhole.of_prefix {n : Nat} (nonzero : n ≠ 0) {ds : List Char} (digits : ∀ c ∈ ds, c.isDigit = true)
    (nonempty : ds ≠ []) (same : ds <+: Nat.toDigits 10 n ∨ Nat.toDigits 10 n <+: ds) : IsWhole ds where
  digits := digits
  nonempty := nonempty
  leading := by
    rintro rest rfl
    obtain ⟨c, others, first⟩ := List.exists_cons_of_ne_nil (Nat.toDigits_ne_nil (n := n) (b := 10))
    have zero : c = '0' := by
      rw [first] at same
      obtain ⟨added, whole⟩ | ⟨added, whole⟩ := same
      · exact (List.cons.inj whole).1.symm
      · exact (List.cons.inj whole).1
    exact absurd (toDigits_leading (zero ▸ first)) nonzero

variable {n : Nat}

/-- A number below one, with zeros between the point and its digits. -/
theorem readsDouble_small (small : n < UInt64.size) (count : Nat) :
    ReadsDouble (sign negative ++ (['0'] ++ '.' :: (zeros count ++ Nat.toDigits 10 n))) := by
  have value : Nat.ofDigitChars 10 (['0'] ++ (zeros count ++ Nat.toDigits 10 n)) 0 = n := by
    rw [Nat.ofDigitChars_append, Nat.ofDigitChars_append, zeros, Nat.ofDigitChars_replicate_zero]
    change Nat.ofDigitChars 10 (Nat.toDigits 10 n) (10 ^ _ * 0) = n
    rw [Nat.mul_zero, Nat.ofDigitChars_ten_toDigits]
  have digits : ∀ c ∈ zeros count ++ Nat.toDigits 10 n, c.isDigit = true :=
    List.forall_mem_append.mpr ⟨isDigit_zeros, isDigit_toDigits⟩
  exact readsDouble_fraction negative isWhole_zero digits (List.append_ne_nil_of_right_ne_nil _ Nat.toDigits_ne_nil)
    (value.trans_lt small)

/-- A whole number, with zeros between its digits and the point. -/
theorem readsDouble_large (nonzero : n ≠ 0) {count : Nat} (short : (Nat.toDigits 10 n).length + count ≤ 16) :
    ReadsDouble (sign negative ++ ((Nat.toDigits 10 n ++ zeros count) ++ '.' :: ['0'])) := by
  have digits : ∀ c ∈ Nat.toDigits 10 n ++ zeros count, c.isDigit = true :=
    List.forall_mem_append.mpr ⟨isDigit_toDigits, isDigit_zeros⟩
  have isWhole := IsWhole.of_prefix nonzero digits (List.append_ne_nil_of_left_ne_nil Nat.toDigits_ne_nil _)
    (.inr (List.prefix_append _ _))
  have padded : 10 ^ count * n < 10 ^ 16 :=
    calc 10 ^ count * n
        < 10 ^ count * 10 ^ (Nat.toDigits 10 n).length :=
          Nat.mul_lt_mul_of_pos_left (lt_ten_pow_width n) (Nat.pow_pos (by norm_num))
      _ = 10 ^ ((Nat.toDigits 10 n).length + count) := by rw [← pow_add, Nat.add_comm]
      _ ≤ 10 ^ 16 := Nat.pow_le_pow_right (by norm_num) short
  have value : Nat.ofDigitChars 10 (Nat.toDigits 10 n ++ zeros count ++ ['0']) 0 < UInt64.size := by
    have size : UInt64.size = 2 ^ 64 := rfl
    rw [Nat.ofDigitChars_append, Nat.ofDigitChars_append, Nat.ofDigitChars_ten_toDigits, zeros,
      Nat.ofDigitChars_replicate_zero]
    change 10 * _ + 0 < _
    omega
  exact readsDouble_fraction negative isWhole (@isDigit_zeros 1) (List.cons_ne_nil _ _) value

section Forms

variable (nonzero : n ≠ 0) (small : n < UInt64.size)
include nonzero small

/-- A number with the point between its digits. -/
theorem readsDouble_split {count : Nat} (first : count ≠ 0) (last : (Nat.toDigits 10 n).drop count ≠ []) :
    ReadsDouble (sign negative ++ ((Nat.toDigits 10 n).take count ++ '.' :: (Nat.toDigits 10 n).drop count)) := by
  have isWhole : IsWhole ((Nat.toDigits 10 n).take count) := by
    apply IsWhole.of_prefix nonzero
    · exact fun c member => isDigit_toDigits c (List.mem_of_mem_take member)
    · rw [ne_eq, List.take_eq_nil_iff]
      rintro (zero | none)
      · exact first zero
      · exact Nat.toDigits_ne_nil none
    · exact .inl (List.take_prefix _ _)
  have digits : ∀ c ∈ (Nat.toDigits 10 n).drop count, c.isDigit = true :=
    fun c member => isDigit_toDigits c (List.mem_of_mem_drop member)
  refine readsDouble_fraction negative isWhole digits last ?_
  rwa [List.take_append_drop, Nat.ofDigitChars_ten_toDigits]

theorem readsDouble_plain {point : Int} (most : point ≤ 16) :
    ReadsDouble (sign negative ++ plainText (Nat.toDigits 10 n) point true) := by
  unfold plainText
  split
  case isTrue => exact readsDouble_small negative small _
  case isFalse =>
    dsimp only
    split
    case isTrue all =>
      have long : (Nat.toDigits 10 n).length ≤ point.toNat := List.drop_eq_nil_iff.mp (List.isEmpty_iff.mp all)
      rw [List.take_of_length_le long]
      exact readsDouble_large negative nonzero (by omega)
    case isFalse some => exact readsDouble_split negative nonzero small (by omega) (mt List.isEmpty_iff.mpr some)

theorem readsDouble_exponent {e : Int} (finite : (Scaled.mk n e).toFloat?.isSome = true) :
    ReadsDouble (sign negative ++ exponentText (Nat.toDigits 10 n) ((Nat.toDigits 10 n).length + e)) := by
  obtain ⟨x, found⟩ := Option.isSome_iff_exists.mp finite
  refine ⟨if negative then -x else x, fun rest ends => ?_⟩
  obtain ⟨c, ds, first⟩ := List.exists_cons_of_ne_nil (Nat.toDigits_ne_nil (n := n) (b := 10))
  have value : Nat.ofDigitChars 10 (c :: ds) 0 = n := first ▸ Nat.ofDigitChars_ten_toDigits
  have digits : ∀ d ∈ c :: ds, d.isDigit = true := first ▸ isDigit_toDigits
  have leading : IsWhole [c] :=
    IsWhole.of_prefix nonzero (fun d member => digits d (List.mem_cons.mpr (.inl (List.mem_singleton.mp member))))
      (List.cons_ne_nil _ _) (.inl (first ▸ ⟨ds, rfl⟩))
  have power : ((ds.length + 1 : Nat) : Int) + e - 1 = e + ds.length := by omega
  have signed : (if e + ds.length < 0 then -1 else 1) * ((e + ds.length).natAbs : Int) = e + ds.length := by
    split <;> omega
  have exponent (s : Scaled) (sum : Scaled.mk s.significand (s.exponent + (e + ds.length)) = ⟨n, e⟩) :=
    @readDouble_power s (decide (e + ds.length < 0)) _ rest (isDigit_toDigits (n := (e + ds.length).natAbs))
      Nat.toDigits_ne_nil (startsDigit_of_closes ends) x (by
        simpa only [decide_eq_true_eq, Nat.ofDigitChars_ten_toDigits, signed, sum] using found)
  simp only [decide_eq_true_eq] at exponent
  rw [first, exponentText, List.length_cons, power]
  cases ds with
  | nil =>
      have read (tail : List Char) := @readNumber_power [c] tail leading negative (value.trans_lt small)
      have place : 0 + (e + ([] : List Char).length) = e := by simp
      simp only [List.append_assoc, List.take_succ_cons, List.take_zero, List.drop_succ_cons, List.drop_zero,
        List.isEmpty_nil, if_true, List.nil_append, List.cons_append] at read exponent ⊢
      rw [read, exponent _ (by simp only [value, place])]
      rfl
  | cons d ds =>
      have digits : ∀ b ∈ d :: ds, b.isDigit = true := (List.forall_mem_cons.mp digits).2
      have read {tail : List Char} (after : startsDigit tail = false) :=
        readNumber_fraction leading negative digits (List.cons_ne_nil _ _) after (value.trans_lt small)
      have place : -((d :: ds).length : Int) + (e + (d :: ds).length) = e := by omega
      simp only [List.append_assoc, List.take_succ_cons, List.take_zero, List.drop_succ_cons, List.drop_zero,
        List.isEmpty_cons, Bool.false_eq_true, if_false, List.nil_append, List.cons_append] at read exponent ⊢
      rw [read rfl, exponent _ (by simp only [value, place])]
      rfl

end Forms

end Doubles

/-- A finite double that is written is read as a double. -/
theorem readsDouble_text {x : Float} (finite : x.isFinite = true) : ReadsDouble (Form.document.text x).toList := by
  obtain ⟨small, readable⟩ := shortest_spec finite
  have shape : (Form.document.text x).toList = sign (Dyadic.signBit x) ++
      let decimal := (shortest .even x).strip
      if decimal.digits = 0 then ['0', '.', '0']
      else
        let digits := Nat.toDigits 10 decimal.digits
        let point := (digits.length : Int) + decimal.exponent
        if -4 ≤ point && point ≤ 16 then plainText digits point true else exponentText digits point := by
    simp only [Form.text, Form.document, finite, Bool.not_true, Bool.false_eq_true, if_false, if_true, sign]
    split <;> exact String.toList_ofList
  rw [shape]
  generalize (shortest .even x).strip = decimal at small readable ⊢
  dsimp only
  split
  case isTrue =>
    exact readsDouble_fraction _ isWhole_zero (@isDigit_zeros 1) (List.cons_ne_nil _ _) (by decide)
  case isFalse nonzero =>
    split
    case isTrue plain =>
      simp only [Bool.and_eq_true, decide_eq_true_eq] at plain
      exact readsDouble_plain _ nonzero small plain.2
    case isFalse => exact readsDouble_exponent _ nonzero small readable

theorem readNumber_toString {n : Int} (least : -0x8000000000000000 ≤ n) (most : n < 0x10000000000000000) {rest : List Char}
    (ends : closes rest = true) : readNumber ((toString n).toList ++ rest) = .ok (whole n, rest) := by
  have written : (toString n).toList = sign (decide (n < 0)) ++ Nat.toDigits 10 n.natAbs := by
    cases n with
    | ofNat k =>
        change (toString k).toList = Nat.toDigits 10 k
        rw [Nat.toString_eq_ofList_toDigits, String.toList_ofList]
    | negSucc k =>
        rw [decide_eq_true (Int.negSucc_lt_zero k)]
        change ("-" ++ toString (k + 1)).toList = '-' :: Nat.toDigits 10 (k + 1)
        rw [Nat.toString_eq_ofList_toDigits, String.toList_append, String.toList_ofList, String.toList_ofList]
        rfl
  have fits : Nat.ofDigitChars 10 (Nat.toDigits 10 n.natAbs) 0 < UInt64.size := by
    have size : UInt64.size = 2 ^ 64 := rfl
    rw [Nat.ofDigitChars_ten_toDigits]
    omega
  rw [written, List.append_assoc, readNumber_whole (isWhole_toDigits n.natAbs) _ ends fits, Nat.ofDigitChars_ten_toDigits]
  by_cases negative : n < 0
  · have value : -(n.natAbs : Int) = n := by omega
    have range : (decide (0 < n.natAbs) && decide (n.natAbs ≤ 0x8000000000000000)) = true := by
      rw [Bool.and_eq_true, decide_eq_true_eq, decide_eq_true_eq]
      omega
    rw [decide_eq_true negative, if_neg (by decide), if_pos range, value]
  · have value : (n.natAbs : Int) = n := by omega
    rw [decide_eq_false negative, if_pos (by decide), value]

end DeviceRules.Json
