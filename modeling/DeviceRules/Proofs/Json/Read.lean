import DeviceRules.Json.Reader
import DeviceRules.Proofs.Json.Tree

/-! What is read from a text. It is never deeper than the arrays and objects that the reader may open, and its whole
numbers fit 64 bits. -/
namespace DeviceRules

section Steps

variable {ε α β : Type}

@[simp]
theorem Except.pure_eq_ok (x : α) : (pure x : Except ε α) = .ok x := rfl

@[simp]
theorem Except.ok_bind (x : α) (next : α → Except ε β) : (Except.ok x >>= next) = next x := rfl

/-- What two steps in a row give comes out of both of them. -/
theorem Except.bind_eq_ok {x : Except ε α} {next : α → Except ε β} {result : β} :
    (x >>= next) = .ok result ↔ ∃ found, x = .ok found ∧ next found = .ok result := by
  cases x <;> simp [bind, Except.bind]

theorem Except.map_eq_ok {x : Except ε α} {f : α → β} {result : β} :
    (f <$> x) = .ok result ↔ ∃ found, x = .ok found ∧ f found = result := by
  cases x <;> simp [Functor.map, Except.map]

theorem Except.mapError_bind {δ : Type} (x : Except ε α) (next : α → Except ε β) (g : ε → δ) :
    (x >>= next).mapError g = x.mapError g >>= fun found => (next found).mapError g := by
  cases x <;> rfl

theorem Except.mapError_map {δ : Type} (x : Except ε α) (f : α → β) (g : ε → δ) :
    (x.map f).mapError g = (x.mapError g).map f := by
  cases x <;> rfl

theorem Except.mapError_eq_ok {δ : Type} {x : Except ε α} {g : ε → δ} {found : α} :
    x.mapError g = .ok found ↔ x = .ok found := by
  cases x <;> simp [Except.mapError]

theorem Except.toOption_mapError {δ : Type} (x : Except ε α) (g : ε → δ) : (x.mapError g).toOption = x.toOption := by
  cases x <;> rfl

theorem Except.toOption_eq_some {x : Except ε α} {found : α} : x.toOption = some found ↔ x = .ok found := by
  cases x <;> simp [Except.toOption]

end Steps

namespace Json

theorem readable_of_map {α : Type} {limit : Nat} {x : Except Flaw α} {f : α → Json × List Char} {json : Json}
    {rest : List Char} (flat : ∀ a, Readable limit (f a).1) (read : x.map f = .ok (json, rest)) :
    Readable limit json := by
  obtain ⟨found, -, same⟩ := Except.map_eq_ok.mp read
  have flat := flat found
  rwa [same] at flat

theorem wholeDigits_significand {s : Scaled} (small : s.significand < UInt64.size) (full : Bool) (cs : List Char) :
    (wholeDigits s full cs).1.significand < UInt64.size := by
  induction cs generalizing s full with
  | nil => exact small
  | cons c rest ih =>
      unfold wholeDigits
      split
      case h_1 => exact small
      case h_2 d _ =>
        split
        case isTrue => exact @ih ⟨s.significand, s.exponent + 1⟩ small true
        case isFalse fits =>
          simp only [Bool.or_eq_true, Bool.not_eq_true', not_or, Bool.not_eq_false] at fits
          exact @ih ⟨s.significand * 10 + d, s.exponent⟩ (of_decide_eq_true fits.2) false

theorem readWhole_significand {cs : List Char} {s : Scaled} {full : Bool} {rest : List Char}
    (read : readWhole cs = .ok (s, full, rest)) : s.significand < UInt64.size := by
  unfold readWhole at read
  split at read
  case h_1 =>
    split at read
    · cases read
    · cases read
      decide
  case h_2 =>
    obtain ⟨-, -, same⟩ := Except.bind_eq_ok.mp read
    have small := @wholeDigits_significand ⟨0, 0⟩ (by decide) false cs
    rwa [Except.ok.inj same] at small

theorem readable_unsigned {limit : Nat} {negative : Bool} {cs : List Char} {json : Json} {rest : List Char}
    (read : readUnsigned negative cs = .ok (json, rest)) : Readable limit json := by
  unfold readUnsigned at read
  obtain ⟨⟨s, full, rest⟩, number, read⟩ := Except.bind_eq_ok.mp read
  have small := readWhole_significand number
  have size : UInt64.size = 2 ^ 64 := rfl
  dsimp only at read small
  split at read
  case h_1 =>
    obtain ⟨-, -, read⟩ := Except.bind_eq_ok.mp read
    exact readable_of_map (fun _ => readable_real _) read
  case h_2 => exact readable_of_map (fun _ => readable_real _) read
  case h_3 => exact readable_of_map (fun _ => readable_real _) read
  case h_4 =>
    split at read
    case isTrue => exact readable_of_map (fun _ => readable_real _) read
    case isFalse =>
      split at read
      case isTrue =>
        cases read
        exact readable_natural small
      case isFalse =>
        split at read
        case isTrue range =>
          simp only [Bool.and_eq_true, decide_eq_true_eq] at range
          cases read
          exact .of_flat (.whole (by omega) (by omega)) rfl
        case isFalse =>
          cases read
          exact readable_real _

theorem readable_number {limit : Nat} {cs : List Char} {json : Json} {rest : List Char}
    (read : readNumber cs = .ok (json, rest)) : Readable limit json := by
  unfold readNumber at read
  split at read
  case h_1 => cases read
  case h_2 => exact readable_unsigned read
  case h_3 =>
    split at read
    · exact readable_unsigned read
    · cases read

/-- What the three readers yield with `fuel`: whatever the limit is, each value stays within it. -/
structure ReadableWith (fuel : Nat) : Prop where
  value : ∀ {limit cs json rest}, readValue limit fuel cs = .ok (json, rest) → Readable limit json
  items : ∀ {limit cs items rest}, readItems limit fuel cs = .ok (items, rest) → ∀ item ∈ items, Readable limit item
  entries : ∀ {limit cs entries rest}, readEntries limit fuel cs = .ok (entries, rest) →
    ∀ entry ∈ entries, Readable limit entry.2

variable {fuel limit : Nat} {cs rest : List Char}

theorem readable_value (smaller : ReadableWith fuel) {json : Json}
    (read : readValue limit (fuel + 1) cs = .ok (json, rest)) : Readable limit json := by
  unfold readValue at read
  split at read
  case h_1 => exact readable_of_map (fun _ => readable_null) read
  case h_2 => exact readable_of_map (fun _ => readable_bool true) read
  case h_3 => exact readable_of_map (fun _ => readable_bool false) read
  case h_4 => exact readable_of_map (fun found => readable_text found.1) read
  case h_5 =>
    split at read
    case isTrue => cases read
    case isFalse opens =>
      obtain ⟨n, rfl⟩ := Nat.exists_eq_succ_of_ne_zero opens
      split at read
      case h_1 => cases read
      case h_2 =>
        cases read
        exact readable_array.mpr fun item member => absurd member List.not_mem_nil
      case h_3 =>
        obtain ⟨found, below, same⟩ := Except.map_eq_ok.mp read
        cases same
        exact readable_array.mpr (smaller.items below)
  case h_6 =>
    split at read
    case isTrue => cases read
    case isFalse opens =>
      obtain ⟨n, rfl⟩ := Nat.exists_eq_succ_of_ne_zero opens
      split at read
      case h_1 => cases read
      case h_2 =>
        cases read
        exact readable_object.mpr fun entry member => absurd member List.not_mem_nil
      case h_3 =>
        obtain ⟨found, below, same⟩ := Except.map_eq_ok.mp read
        cases same
        exact readable_object.mpr fun entry member => smaller.entries below entry (Fields.mem_of_mem_sorted member)
  case h_7 => exact readable_number read

theorem readable_items (smaller : ReadableWith fuel) {items : List Json}
    (read : readItems limit (fuel + 1) cs = .ok (items, rest)) : ∀ item ∈ items, Readable limit item := by
  unfold readItems at read
  obtain ⟨⟨item, after⟩, first, read⟩ := Except.bind_eq_ok.mp read
  dsimp only at read
  split at read
  case h_1 => cases read
  case h_2 =>
    cases read
    exact fun item member => List.mem_singleton.mp member ▸ smaller.value first
  case h_3 =>
    split at read
    case h_1 => cases read
    case h_2 =>
      obtain ⟨⟨others, last⟩, below, same⟩ := Except.bind_eq_ok.mp read
      cases same
      exact List.forall_mem_cons.mpr ⟨smaller.value first, smaller.items below⟩
  case h_4 => cases read

theorem readable_entries (smaller : ReadableWith fuel) {entries : Fields}
    (read : readEntries limit (fuel + 1) cs = .ok (entries, rest)) : ∀ entry ∈ entries, Readable limit entry.2 := by
  unfold readEntries at read
  obtain ⟨⟨key, after⟩, -, read⟩ := Except.bind_eq_ok.mp read
  obtain ⟨⟨value, after⟩, first, read⟩ := Except.bind_eq_ok.mp read
  dsimp only at read
  split at read
  case h_1 => cases read
  case h_2 =>
    cases read
    exact fun entry member => List.mem_singleton.mp member ▸ smaller.value first
  case h_3 =>
    split at read
    case h_1 => cases read
    case h_2 => cases read
    case h_3 =>
      obtain ⟨⟨others, last⟩, below, same⟩ := Except.bind_eq_ok.mp read
      cases same
      exact List.forall_mem_cons.mpr ⟨smaller.value first, smaller.entries below⟩
  case h_4 => cases read

theorem readableWith (fuel : Nat) : ReadableWith fuel := by
  induction fuel with
  | zero =>
      constructor
      · intro _ _ _ _ read
        cases read
      · intro _ _ _ _ read
        cases read
      · intro _ _ _ _ read
        cases read
  | succ fuel ih => exact ⟨readable_value ih, readable_items ih, readable_entries ih⟩

/-- A text that is read is not too deep, and its whole numbers fit 64 bits. -/
theorem readable_of_ofText? {s : String} {json : Json} (read : ofText? s = some json) : Readable depthLimit json := by
  rw [ofText?, Json.read, Except.toOption_mapError, Except.toOption_eq_some] at read
  obtain ⟨⟨found, rest⟩, value, read⟩ := Except.bind_eq_ok.mp read
  dsimp only at read
  split at read
  · cases read
    exact (readableWith _).value value
  · cases read

end Json

end DeviceRules
