import DeviceRules.Proofs.Json.Number
import DeviceRules.Proofs.Json.Read

/-! Values that are written and read again. What is written is read to its end, unless it opens more arrays and
objects inside each other than the reader may. -/
namespace DeviceRules.Json

section Quoted

variable {rest : List Char}

theorem hex?_digitChar : ∀ d < 16, hex? (Nat.digitChar d) = some d := by
  decide

theorem readEscape_control {n : Nat} (small : n < 32) :
    readEscape ('0' :: '0' :: Nat.digitChar (n / 16) :: Nat.digitChar (n % 16) :: rest) =
      .ok (Char.ofNat n, rest) := by
  have high := hex?_digitChar (n / 16) (by omega)
  have low := hex?_digitChar (n % 16) (by omega)
  have zero : hex? '0' = some 0 := rfl
  have value : ((0 * 16 + 0) * 16 + n / 16) * 16 + n % 16 = n := by omega
  have unit : readUnit ('0' :: '0' :: Nat.digitChar (n / 16) :: Nat.digitChar (n % 16) :: rest) = .ok (n, rest) := by
    simp only [readUnit, fourHex?, high, low, zero, Option.bind_eq_bind, Option.bind_some, Option.pure_def, value]
  rw [readEscape, unit, Except.ok_bind]
  apply if_pos
  simp only [Bool.or_eq_true, decide_eq_true_eq]
  omega

/-- One character is read back, however it is written. -/
theorem readQuoted_escapedChar (done : List Char) (fuel : Nat) (c : Char) (rest : List Char) :
    readQuoted done (fuel + 1) ((escapedChar c).toList ++ rest) = readQuoted (c :: done) fuel rest := by
  unfold escapedChar
  split_ifs with quote backslash back form line carriage tab control
  · subst quote; rfl
  · subst backslash; rfl
  · subst back; rfl
  · subst form; rfl
  · subst line; rfl
  · subst carriage; rfl
  · subst tab; rfl
  · have written : ("\\u00" ++ String.ofList [Nat.digitChar (c.toNat / 16), Nat.digitChar (c.toNat % 16)]).toList ++
        rest = '\\' :: 'u' :: '0' :: '0' :: Nat.digitChar (c.toNat / 16) :: Nat.digitChar (c.toNat % 16) :: rest := by
      rw [String.toList_append, String.toList_ofList, String.toList_ofList]
      rfl
    rw [written]
    conv => lhs; unfold readQuoted
    rw [if_neg (by decide), if_pos rfl]
    simp only [readEscape_control control, Char.ofNat_toNat]
  · have written : (String.singleton c).toList ++ rest = c :: rest := by simp
    rw [written]
    conv => lhs; unfold readQuoted
    rw [if_neg quote, if_neg backslash, if_neg control]

theorem readQuoted_append (cs done : List Char) {fuel : Nat} (enough : cs.length < fuel) :
    readQuoted done fuel ((cs.map escapedChar).flatMap String.toList ++ '"' :: rest) =
      .ok (String.ofList (done.reverse ++ cs), rest) := by
  induction cs generalizing done fuel with
  | nil =>
      obtain ⟨fuel, rfl⟩ := Nat.exists_eq_succ_of_ne_zero (Nat.ne_of_gt enough)
      rw [List.append_nil]
      rfl
  | cons c cs ih =>
      obtain ⟨fuel, rfl⟩ := Nat.exists_eq_succ_of_ne_zero (Nat.ne_of_gt (Nat.zero_lt_of_lt enough))
      rw [List.map_cons, List.flatMap_cons, List.append_assoc, readQuoted_escapedChar,
        ih (c :: done) (Nat.lt_of_succ_lt_succ enough), List.reverse_cons, List.append_assoc]
      rfl

/-- The characters of a quoted text after its first quote. -/
theorem toList_quotedText (s : String) :
    (quotedText s).toList = '"' :: ((s.toList.map escapedChar).flatMap String.toList ++ ['"']) := by
  rw [quotedText, String.toList_append, String.toList_append, String.toList_join]
  rfl

theorem length_le_escaped (cs : List Char) : cs.length ≤ ((cs.map escapedChar).flatMap String.toList).length := by
  induction cs with
  | nil => exact Nat.zero_le _
  | cons c cs ih =>
      have some : 0 < (escapedChar c).toList.length := by
        unfold escapedChar
        split_ifs <;> simp
      rw [List.map_cons, List.flatMap_cons, List.length_append, List.length_cons]
      omega

/-- A quoted text is read to its closing quote. -/
theorem readQuoted_quotedText (s : String) :
    ∃ inside, (quotedText s).toList ++ rest = '"' :: inside ∧
      readQuoted [] (inside.length + 1) inside = .ok (s, rest) := by
  refine ⟨(s.toList.map escapedChar).flatMap String.toList ++ '"' :: rest, ?_, ?_⟩
  · rw [toList_quotedText, List.cons_append, List.append_assoc]
    rfl
  · rw [readQuoted_append s.toList [] (by
      have := length_le_escaped s.toList
      rw [List.length_append]
      omega)]
    rw [List.reverse_nil, List.nil_append, String.ofList_toList]

end Quoted

def starts (c : Char) : Bool := c.isDigit || ['-', 'n', 't', 'f', '"', '[', '\x7b'].contains c

theorem readNumber_starts {cs : List Char} {result : Json × List Char} (read : readNumber cs = .ok result) :
    ∃ c rest, cs = c :: rest ∧ (c = '-' ∨ c.isDigit = true) := by
  unfold readNumber at read
  split at read
  case h_1 => cases read
  case h_2 rest => exact ⟨'-', rest, rfl, .inl rfl⟩
  case h_3 c rest _ =>
    split at read
    case isTrue digit => exact ⟨c, rest, rfl, .inr digit⟩
    case isFalse => cases read

theorem starts_of_number {c : Char} (number : c = '-' ∨ c.isDigit = true) : starts c = true := by
  obtain rfl | digit := number
  · rfl
  · rw [starts, digit, Bool.true_or]

theorem skipSpace_of_starts {c : Char} (first : starts c = true) (rest : List Char) :
    skipSpace (c :: rest) = c :: rest := by
  apply List.dropWhile_cons_of_neg
  intro space
  simp only [Bool.or_eq_true, beq_iff_eq] at space
  obtain ((rfl | rfl) | rfl) | rfl := space <;> exact absurd first (by decide)

theorem starts_of_readNumber {cs : List Char} {result : Json × List Char} (read : readNumber cs = .ok result) :
    ∃ c rest, cs = c :: rest ∧ starts c = true := by
  obtain ⟨c, rest, same, number⟩ := readNumber_starts read
  exact ⟨c, rest, same, starts_of_number number⟩

theorem readValue_number {limit fuel : Nat} {cs : List Char} {result : Json × List Char}
    (read : readNumber cs = .ok result) : readValue limit (fuel + 1) cs = .ok result := by
  obtain ⟨c, rest, rfl, number⟩ := readNumber_starts read
  have other (d : Char) (no : d ≠ '-' ∧ d.isDigit = false) : c ≠ d := by
    rintro rfl
    obtain dash | digit := number
    · exact no.1 dash
    · exact Bool.false_ne_true (no.2.symm.trans digit)
  unfold readValue
  rw [skipSpace_of_starts (starts_of_number number)]
  split
  case h_1 same => exact absurd (List.cons.inj same).1 (other 'n' (by decide))
  case h_2 same => exact absurd (List.cons.inj same).1 (other 't' (by decide))
  case h_3 same => exact absurd (List.cons.inj same).1 (other 'f' (by decide))
  case h_4 same => exact absurd (List.cons.inj same).1 (other '"' (by decide))
  case h_5 same => exact absurd (List.cons.inj same).1 (other '[' (by decide))
  case h_6 same => exact absurd (List.cons.inj same).1 (other '\x7b' (by decide))
  case h_7 => exact read

mutual

/-- A value as it is read from its text: a double that is not finite comes back as `null`, and the entries of objects
come back sorted. -/
def reread : Json → Json
  | null => null
  | bool b => bool b
  | whole n => whole n
  | real x => ((readNumber (Decimal.Form.document.text x).toList).toOption.map Prod.fst).getD null
  | text s => text s
  | array items => array (rereadItems items)
  | object entries => object (Fields.sorted (rereadEntries entries))

def rereadItems : List Json → List Json
  | [] => []
  | item :: rest => item.reread :: rereadItems rest

def rereadEntries : Fields → Fields
  | [] => []
  | (key, value) :: rest => (key, value.reread) :: rereadEntries rest

end

/-- What comes of reading `depth` levels of arrays and objects when `limit` may be opened. -/
def within {α : Type} (limit depth : Nat) (found : α) : Except Breach α :=
  if depth ≤ limit then .ok found else .error .tooDeep

section Within

variable {α β : Type} {limit depth others : Nat} {found : α} {result : β}

theorem within_of_le (shallow : depth ≤ limit) : within limit depth found = .ok found := if_pos shallow

theorem map_within (f : α → β) : (within limit depth found).map f = within limit depth (f found) :=
  apply_ite (Except.map f) _ _ _

/-- Two values that are read one after the other are both read just when the deeper one is not too deep. -/
theorem within_max {first : Except Flaw α} {both : Except Flaw β}
    (read : first.mapError Flaw.breach = within limit depth found)
    (fails : ∀ flaw, first = .error flaw → both = .error flaw)
    (next : first = .ok found → both.mapError Flaw.breach = within limit others result) :
    both.mapError Flaw.breach = within limit (max depth others) result := by
  unfold within at *
  by_cases shallow : depth ≤ limit
  · rw [if_pos shallow, Except.mapError_eq_ok] at read
    simp only [next read, Nat.max_le, shallow, true_and]
  · rw [if_neg shallow] at read
    cases first with
    | ok => cases read
    | error flaw =>
        rw [fails flaw rfl, if_neg fun both => shallow (Nat.max_le.mp both).1]
        exact congrArg Except.error (Except.error.inj read)

/-- What is read with one level less has to be one level less deep. -/
theorem within_succ {inner : Except Flaw α} (read : inner.mapError Flaw.breach = within (limit - 1) depth found)
    (rest : List Char) (f : α → β) :
    (if limit = 0 then refuse .tooDeep rest else inner.map f).mapError Flaw.breach =
      within limit (depth + 1) (f found) := by
  cases limit with
  | zero => rfl
  | succ limit =>
      rw [if_neg (Nat.succ_ne_zero limit), Except.mapError_map, read, map_within]
      simp only [within, Nat.add_sub_cancel, Nat.add_le_add_iff_right]

end Within

/-- Whether the text of a value is read, wherever it stands in a document, just when it is not too deep. -/
def Reads (json : Json) : Prop :=
  ∀ limit fuel rest, closes rest = true → 2 * json.toText.length ≤ fuel →
    (readValue limit fuel (json.toText.toList ++ rest)).mapError Flaw.breach =
      within limit json.depth (json.reread, rest)

theorem reads_of_flat {json : Json} (flat : json.depth = 0) (nonempty : json.toText.length ≠ 0)
    (read : ∀ limit fuel rest, closes rest = true →
      readValue limit (fuel + 1) (json.toText.toList ++ rest) = .ok (json.reread, rest)) : Reads json := by
  intro limit fuel rest ends enough
  obtain ⟨fuel, rfl⟩ := Nat.exists_eq_succ_of_ne_zero (by omega : fuel ≠ 0)
  rw [read limit fuel rest ends, flat, within_of_le (Nat.zero_le limit)]
  rfl

theorem length_ne_zero_of_readNumber {s : String} {result : Json × List Char}
    (read : readNumber s.toList = .ok result) : s.length ≠ 0 := by
  obtain ⟨c, rest, same, -⟩ := readNumber_starts read
  rw [← String.length_toList, same]
  exact Nat.succ_ne_zero _

theorem text_not_finite {x : Float} (infinite : ¬x.isFinite = true) : Decimal.Form.document.text x = "null" := by
  rw [Decimal.Form.text, if_pos (by simpa using infinite)]
  rfl

theorem reads_real (x : Float) : Reads (.real x) := by
  by_cases finite : x.isFinite = true
  · obtain ⟨y, read⟩ := readsDouble_text finite
    have alone := read [] rfl
    rw [List.append_nil] at alone
    have same : (Json.real x).reread = .real y := by
      rw [reread, alone]
      rfl
    refine reads_of_flat rfl (length_ne_zero_of_readNumber alone) fun limit fuel rest ends => ?_
    rw [same]
    exact readValue_number (read rest ends)
  · have written := text_not_finite finite
    have same : (Json.real x).reread = .null := by
      rw [reread, written]
      rfl
    refine reads_of_flat rfl ?_ fun limit fuel rest ends => ?_
    · rw [toText, written]
      decide
    · rw [same, toText, written]
      rfl

theorem reads_whole {n : Int} (least : -0x8000000000000000 ≤ n) (most : n < 0x10000000000000000) : Reads (.whole n) := by
  have alone := @readNumber_toString n least most [] rfl
  rw [List.append_nil] at alone
  refine reads_of_flat rfl (length_ne_zero_of_readNumber alone) fun limit fuel rest ends => ?_
  exact readValue_number (readNumber_toString least most ends)

theorem reads_text (s : String) : Reads (.text s) := by
  refine reads_of_flat rfl ?_ fun limit fuel rest _ => ?_
  · rw [toText, ← String.length_toList, toList_quotedText]
    exact Nat.succ_ne_zero _
  · obtain ⟨inside, same, read⟩ := @readQuoted_quotedText rest s
    rw [toText, same, readValue, skipSpace_of_starts rfl]
    simp only [read, reread, Except.map]

section Inner

variable (item : Json) (items : List Json) (key : String) (value : Json) (entries : Fields) (rest : List Char)

theorem toList_itemsText_cons :
    (itemsText (item :: items)).toList = ',' :: (item.toText.toList ++ (itemsText items).toList) := by
  rw [itemsText, String.toList_append, String.toList_append]
  rfl

theorem toList_array_cons :
    (array (item :: items)).toText.toList = '[' :: (item.toText.toList ++ (itemsText items).toList) := by
  rw [toText, String.toList_append, String.toList_append]
  rfl

theorem toList_entriesText_cons :
    (entriesText ((key, value) :: entries)).toList =
      ',' :: ((quotedText key).toList ++ ':' :: (value.toText.toList ++ (entriesText entries).toList)) := by
  rw [entriesText, String.toList_append, String.toList_append, String.toList_append, String.toList_append]
  simp only [List.append_assoc]
  rfl

theorem toList_object_cons :
    (object ((key, value) :: entries)).toText.toList =
      '\x7b' :: ((quotedText key).toList ++ ':' :: (value.toText.toList ++ (entriesText entries).toList)) := by
  rw [toText, String.toList_append, String.toList_append, String.toList_append, String.toList_append]
  simp only [List.append_assoc]
  rfl

theorem closes_itemsText : closes ((itemsText items).toList ++ rest) = true := by
  cases items with
  | nil => rfl
  | cons item items =>
      rw [toList_itemsText_cons]
      rfl

theorem closes_entriesText : closes ((entriesText entries).toList ++ rest) = true := by
  cases entries with
  | nil => rfl
  | cons entry entries =>
      rw [toList_entriesText_cons]
      rfl

end Inner

/-- The text of a value begins as a value does, and with no space. -/
theorem starts_toText {json : Json} (inRange : json.InRange) :
    ∃ c rest, json.toText.toList = c :: rest ∧ starts c = true := by
  cases inRange with
  | null => exact ⟨_, _, rfl, rfl⟩
  | bool b => cases b <;> exact ⟨_, _, rfl, rfl⟩
  | whole least most =>
      have read := @readNumber_toString _ least most [] rfl
      rw [List.append_nil] at read
      exact starts_of_readNumber read
  | real x =>
      by_cases finite : x.isFinite = true
      · obtain ⟨y, read⟩ := readsDouble_text finite
        have alone := read [] rfl
        rw [List.append_nil] at alone
        exact starts_of_readNumber alone
      · rw [toText, text_not_finite finite]
        exact ⟨_, _, rfl, rfl⟩
  | text s =>
      rw [toText, toList_quotedText]
      exact ⟨_, _, rfl, rfl⟩
  | @array items each =>
      cases items with
      | nil => exact ⟨_, _, rfl, rfl⟩
      | cons item items => exact ⟨_, _, toList_array_cons item items, rfl⟩
  | @object entries each =>
      cases entries with
      | nil => exact ⟨_, _, rfl, rfl⟩
      | cons entry entries => exact ⟨_, _, toList_object_cons entry.1 entry.2 entries, rfl⟩

section Items

variable {limit fuel : Nat} {cs rest : List Char} {item : Json}

theorem readItems_error {flaw : Flaw} (read : readValue limit fuel cs = .error flaw) :
    readItems limit (fuel + 1) cs = .error flaw := by
  rw [readItems, read]
  rfl

theorem readItems_close (read : readValue limit fuel cs = .ok (item, ']' :: rest)) :
    readItems limit (fuel + 1) cs = .ok ([item], rest) := by
  rw [readItems, read]
  rfl

theorem readItems_comma {c : Char} (first : starts c = true)
    (read : readValue limit fuel cs = .ok (item, ',' :: c :: rest)) :
    readItems limit (fuel + 1) cs =
      (readItems limit fuel (c :: rest)).map fun others => (item :: others.1, others.2) := by
  have comma : skipSpace (',' :: c :: rest) = ',' :: c :: rest := rfl
  rw [readItems, read, Except.ok_bind]
  simp only [comma, skipSpace_of_starts first]
  split
  case h_1 same =>
    obtain rfl : c = ']' := (List.cons.inj same).1
    cases first
  case h_2 => rfl

end Items

theorem readItems_itemsText {items : List Json} {item : Json} (inRange : ∀ json ∈ item :: items, json.InRange)
    (each : ∀ json ∈ item :: items, Reads json) {limit fuel : Nat}
    (enough : 2 * (item.toText.length + (itemsText items).length) ≤ fuel) (rest : List Char) :
    (readItems limit fuel (item.toText.toList ++ ((itemsText items).toList ++ rest))).mapError Flaw.breach =
      within limit (itemsDepth (item :: items)) (rereadItems (item :: items), rest) := by
  induction items generalizing item fuel with
  | nil =>
      have closing : (itemsText []).length = 1 := rfl
      obtain ⟨fuel, rfl⟩ := Nat.exists_eq_succ_of_ne_zero (by omega : fuel ≠ 0)
      have read := each item List.mem_cons_self limit fuel _ (closes_itemsText [] rest) (by omega)
      refine within_max read (fun flaw => readItems_error) fun found => ?_
      rw [readItems_close found]
      rfl
  | cons next items ih =>
      have closing : (itemsText (next :: items)).length = next.toText.length + (itemsText items).length + 1 := by
        simp only [← String.length_toList, toList_itemsText_cons, List.length_cons, List.length_append]
      obtain ⟨fuel, rfl⟩ := Nat.exists_eq_succ_of_ne_zero (by omega : fuel ≠ 0)
      have read := each item List.mem_cons_self limit fuel _ (closes_itemsText (next :: items) rest) (by omega)
      have others := ih (List.forall_mem_cons.mp inRange).2 (List.forall_mem_cons.mp each).2 (by omega : _ ≤ fuel)
      have comma : (itemsText (next :: items)).toList ++ rest =
          ',' :: (next.toText.toList ++ ((itemsText items).toList ++ rest)) := by
        rw [toList_itemsText_cons, List.cons_append, List.append_assoc]
      obtain ⟨c, more, same, first⟩ := starts_toText (inRange next (List.mem_cons_of_mem _ List.mem_cons_self))
      rw [same, List.cons_append] at others comma
      refine within_max read (fun flaw => readItems_error) fun found => ?_
      rw [comma] at found ⊢
      rw [readItems_comma first found, Except.mapError_map, others, map_within]
      rfl

section Entries

variable {limit fuel : Nat} {cs rest : List Char} {key : String} {value : Json}

theorem readKey_quotedText (key : String) (rest : List Char) :
    readKey ((quotedText key).toList ++ ':' :: rest) = .ok (key, rest) := by
  obtain ⟨inside, same, read⟩ := @readQuoted_quotedText (':' :: rest) key
  rw [same, readKey, skipSpace_of_starts rfl]
  simp only [read, Except.ok_bind]
  rfl

theorem readEntries_error {flaw : Flaw} (read : readValue limit fuel cs = .error flaw) :
    readEntries limit (fuel + 1) ((quotedText key).toList ++ ':' :: cs) = .error flaw := by
  rw [readEntries, readKey_quotedText, Except.ok_bind]
  simp only [read]
  rfl

theorem readEntries_close (read : readValue limit fuel cs = .ok (value, '\x7d' :: rest)) :
    readEntries limit (fuel + 1) ((quotedText key).toList ++ ':' :: cs) = .ok ([(key, value)], rest) := by
  rw [readEntries, readKey_quotedText, Except.ok_bind]
  simp only [read]
  rfl

theorem readEntries_comma (read : readValue limit fuel cs = .ok (value, ',' :: '"' :: rest)) :
    readEntries limit (fuel + 1) ((quotedText key).toList ++ ':' :: cs) =
      (readEntries limit fuel ('"' :: rest)).map fun others => ((key, value) :: others.1, others.2) := by
  rw [readEntries, readKey_quotedText, Except.ok_bind]
  simp only [read]
  rfl

end Entries

theorem readEntries_entriesText {entries : Fields} {key : String} {value : Json}
    (each : ∀ entry ∈ (key, value) :: entries, Reads entry.2)
    {limit fuel : Nat} (enough : 2 * (value.toText.length + (entriesText entries).length) ≤ fuel) (rest : List Char) :
    (readEntries limit fuel
        ((quotedText key).toList ++ ':' ::
          (value.toText.toList ++ ((entriesText entries).toList ++ rest)))).mapError Flaw.breach =
      within limit (entriesDepth ((key, value) :: entries)) (rereadEntries ((key, value) :: entries), rest) := by
  induction entries generalizing key value fuel with
  | nil =>
      have closing : (entriesText []).length = 1 := rfl
      obtain ⟨fuel, rfl⟩ := Nat.exists_eq_succ_of_ne_zero (by omega : fuel ≠ 0)
      have first : Reads value := each (key, value) List.mem_cons_self
      have read := first limit fuel _ (closes_entriesText [] rest) (by omega)
      refine within_max read (fun flaw => readEntries_error) fun found => ?_
      rw [readEntries_close found]
      rfl
  | cons entry entries ih =>
      obtain ⟨next, content⟩ := entry
      have closing : content.toText.length + (entriesText entries).length <
          (entriesText ((next, content) :: entries)).length := by
        simp only [← String.length_toList, toList_entriesText_cons, List.length_cons, List.length_append]
        omega
      obtain ⟨fuel, rfl⟩ := Nat.exists_eq_succ_of_ne_zero (by omega : fuel ≠ 0)
      have first : Reads value := each (key, value) List.mem_cons_self
      have read := first limit fuel _ (closes_entriesText ((next, content) :: entries) rest) (by omega)
      have others := ih (List.forall_mem_cons.mp each).2 (by omega : _ ≤ fuel)
      have comma : (entriesText ((next, content) :: entries)).toList ++ rest =
          ',' :: ((quotedText next).toList ++ ':' :: (content.toText.toList ++ ((entriesText entries).toList ++ rest))) := by
        simp only [toList_entriesText_cons, List.cons_append, List.append_assoc]
      rw [toList_quotedText next, List.cons_append] at others comma
      refine within_max read (fun flaw => readEntries_error) fun found => ?_
      rw [comma] at found ⊢
      rw [readEntries_comma found, Except.mapError_map, others, map_within]
      rfl

theorem readValue_openArray {c : Char} (first : starts c = true) (limit fuel : Nat) (rest : List Char) :
    readValue limit (fuel + 1) ('[' :: c :: rest) =
      if limit = 0 then refuse .tooDeep ('[' :: c :: rest)
      else (readItems (limit - 1) fuel (c :: rest)).map fun found => (array found.1, found.2) := by
  rw [readValue, skipSpace_of_starts rfl]
  simp only [skipSpace_of_starts first]
  split
  case isTrue => rfl
  case isFalse =>
    split
    case h_1 same => cases same
    case h_2 same =>
      obtain rfl : c = ']' := (List.cons.inj same).1
      cases first
    case h_3 => rfl

theorem readValue_openObject (limit fuel : Nat) (rest : List Char) :
    readValue limit (fuel + 1) ('\x7b' :: '"' :: rest) =
      if limit = 0 then refuse .tooDeep ('\x7b' :: '"' :: rest)
      else (readEntries (limit - 1) fuel ('"' :: rest)).map fun found => (object (Fields.sorted found.1), found.2) := by
  rfl

theorem reads_array {items : List Json} (inRange : ∀ item ∈ items, item.InRange) (each : ∀ item ∈ items, Reads item) :
    Reads (.array items) := by
  intro limit fuel rest ends enough
  cases items with
  | nil =>
      have length : (array []).toText.length = 2 := rfl
      obtain ⟨fuel, rfl⟩ := Nat.exists_eq_succ_of_ne_zero (by omega : fuel ≠ 0)
      have empty : (Except.ok (array [], rest) : Except Flaw _).mapError Flaw.breach = within (limit - 1) 0 _ :=
        (within_of_le (Nat.zero_le _)).symm
      exact within_succ empty _ id
  | cons item items =>
      have length : (array (item :: items)).toText.length = item.toText.length + (itemsText items).length + 1 := by
        simp only [← String.length_toList, toList_array_cons, List.length_cons, List.length_append]
      have opened : (array (item :: items)).toText.toList ++ rest =
          '[' :: (item.toText.toList ++ ((itemsText items).toList ++ rest)) := by
        rw [toList_array_cons, List.cons_append, List.append_assoc]
      obtain ⟨fuel, rfl⟩ := Nat.exists_eq_succ_of_ne_zero (by omega : fuel ≠ 0)
      have read := @readItems_itemsText items item inRange each (limit - 1) fuel (by omega) rest
      obtain ⟨c, others, same, first⟩ := starts_toText (inRange item List.mem_cons_self)
      rw [same, List.cons_append] at read opened
      rw [opened, readValue_openArray first]
      exact within_succ read _ _

theorem reads_object {entries : Fields} (each : ∀ entry ∈ entries, Reads entry.2) : Reads (.object entries) := by
  intro limit fuel rest ends enough
  cases entries with
  | nil =>
      have length : (object []).toText.length = 2 := rfl
      obtain ⟨fuel, rfl⟩ := Nat.exists_eq_succ_of_ne_zero (by omega : fuel ≠ 0)
      have empty : (Except.ok (object [], rest) : Except Flaw _).mapError Flaw.breach = within (limit - 1) 0 _ :=
        (within_of_le (Nat.zero_le _)).symm
      exact within_succ empty _ id
  | cons entry entries =>
      obtain ⟨key, value⟩ := entry
      have length : value.toText.length + (entriesText entries).length <
          (object ((key, value) :: entries)).toText.length := by
        simp only [← String.length_toList, toList_object_cons, List.length_cons, List.length_append]
        omega
      have opened : (object ((key, value) :: entries)).toText.toList ++ rest =
          '\x7b' :: ((quotedText key).toList ++ ':' :: (value.toText.toList ++ ((entriesText entries).toList ++ rest))) := by
        simp only [toList_object_cons, List.cons_append, List.append_assoc]
      obtain ⟨fuel, rfl⟩ := Nat.exists_eq_succ_of_ne_zero (by omega : fuel ≠ 0)
      have read := @readEntries_entriesText entries key value each (limit - 1) fuel (by omega) rest
      rw [toList_quotedText, List.cons_append] at read opened
      rw [opened, readValue_openObject]
      exact within_succ read _ _

/-- A value is read from its text just when it is not too deep. -/
theorem reads {json : Json} (inRange : json.InRange) : Reads json := by
  induction json using nodeInduction with
  | null =>
      exact reads_of_flat rfl (by decide) fun _ _ _ _ => rfl
  | bool b => cases b <;> exact reads_of_flat rfl (by decide) fun _ _ _ _ => rfl
  | whole n =>
      cases inRange with
      | whole least most => exact reads_whole least most
  | real x => exact reads_real x
  | text s => exact reads_text s
  | array items ih =>
      cases inRange with
      | array each => exact reads_array each fun item member => ih item member (each item member)
  | object entries ih =>
      cases inRange with
      | object each => exact reads_object fun entry member => ih entry member (each entry member)

/-- A value that is written is read again, or else it is too deep. -/
theorem read_toText {json : Json} (inRange : json.InRange) :
    (read json.toText).mapError Diagnosis.breach = within depthLimit json.depth json.reread := by
  have value := reads inRange depthLimit (2 * json.toText.toList.length + 2) [] rfl (by
    rw [String.length_toList]
    omega)
  rw [List.append_nil] at value
  have document : (read json.toText).mapError Diagnosis.breach =
      (readDocument json.toText.toList).mapError Flaw.breach := by
    rw [read]
    cases readDocument json.toText.toList <;> rfl
  rw [document, readDocument, Except.mapError_bind, value]
  unfold within
  by_cases shallow : json.depth ≤ depthLimit
  · rw [if_pos shallow, if_pos shallow]
    rfl
  · rw [if_neg shallow, if_neg shallow]
    rfl

theorem breach_of_read_toText {json : Json} (inRange : json.InRange) {diagnosis : Diagnosis}
    (fails : read json.toText = .error diagnosis) : diagnosis.breach = .tooDeep := by
  have outcome := read_toText inRange
  rw [fails, within] at outcome
  split at outcome
  · cases outcome
  · exact Except.error.inj outcome

theorem ofText?_toText {json : Json} (inRange : json.InRange) :
    ofText? json.toText = if json.depth ≤ depthLimit then some json.reread else none := by
  rw [ofText?, ← Except.toOption_mapError _ Diagnosis.breach, read_toText inRange]
  exact apply_ite Except.toOption _ _ _

end DeviceRules.Json
