import DeviceRules.Action.Decode
import DeviceRules.Action.Encode
import DeviceRules.Condition.Encode
import DeviceRules.Proofs.Json.Read
import DeviceRules.Proofs.Time.Written

/-! Reading fields. What is read depends on the values under the keys that are asked for and on nothing else, so
foreign entries make no difference; and each reader takes back what is written for it. -/
namespace DeviceRules

namespace Fields

variable {α : Type} {a b foreign fields : Fields} {key : String}

/-- Whether two lists of entries have the same values under some keys. -/
def AgreeOn (keys : List String) (a b : Fields) : Prop := ∀ key ∈ keys, a.get? key = b.get? key

@[simp]
theorem get?_cons {name : String} {value : Json} :
    get? ((name, value) :: fields) key = if key = name then some value else fields.get? key := by
  rw [get?, List.lookup_cons]
  by_cases found : key = name
  · simp only [found, beq_self_eq_true, if_true]
  · have other : (key == name) = false := beq_eq_false_iff_ne.mpr found
    simp only [other, found, if_false, get?]

@[simp]
theorem get?_nil : get? [] key = none := rfl

theorem get?_append : (foreign ++ fields).get? key = (foreign.get? key).or (fields.get? key) :=
  List.lookup_append

/-- Entries under other keys change nothing. -/
theorem agreeOn_append {keys : List String} (absent : ∀ key ∈ keys, foreign.get? key = none) :
    AgreeOn keys (foreign ++ fields) fields := by
  intro key member
  rw [get?_append, absent key member, Option.none_or]

theorem read?_congr (same : a.get? key = b.get? key) (read : Reader α) : a.read? key read = b.read? key read := by
  simp only [read?, same]

theorem readOr_congr (same : a.get? key = b.get? key) (read : Reader α) (absent : α) :
    a.readOr key read absent = b.readOr key read absent := by
  simp only [readOr, read?_congr same]

theorem readEither?_congr {first second : String} (sameFirst : a.get? first = b.get? first)
    (sameSecond : a.get? second = b.get? second) (name : String) (read : Reader α) :
    a.readEither? first second name read = b.readEither? first second name read := by
  simp only [readEither?, sameFirst, sameSecond]

theorem required_eq_ok {value : Option α} {found : α} : required key value = .ok found ↔ value = some found := by
  cases value <;> simp [required]

-- Whatever holds of everything that a reader gives holds of what is read from fields.
variable {read : Reader α} {p : α → Prop} (sound : ∀ json x, read json = .ok x → p x)
include sound

theorem some_sound {json : Json} {found : Option α} (given : some <$> read json = .ok found) :
    ∀ x ∈ found, p x := by
  obtain ⟨y, fine, rfl⟩ := Except.map_eq_ok.mp given
  intro x member
  exact Option.some.inj member ▸ sound json y fine

theorem read?_sound {found : Option α} (given : fields.read? key read = .ok found) : ∀ x ∈ found, p x := by
  unfold read? at given
  split at given
  · obtain rfl := Except.ok.inj given
    exact fun _ member => nomatch member
  · exact some_sound sound given

theorem readOr_sound {absent found : α} (byDefault : p absent) (given : fields.readOr key read absent = .ok found) :
    p found := by
  obtain ⟨value, readValue, same⟩ := Except.bind_eq_ok.mp given
  obtain rfl : value.getD absent = found := Except.ok.inj same
  cases value with
  | none => exact byDefault
  | some x => exact read?_sound sound readValue x rfl

theorem readEither?_sound {first second name : String} {found : Option α}
    (given : fields.readEither? first second name read = .ok found) : ∀ x ∈ found, p x := by
  unfold readEither? at given
  split at given
  · obtain rfl := Except.ok.inj given
    exact fun _ member => nomatch member
  · exact some_sound sound given
  · exact some_sound sound given
  · obtain ⟨-, -, refused⟩ := Except.bind_eq_ok.mp given
    cases refused

end Fields

theorem kindOf_congr {a b : Fields} (same : a.get? "type" = b.get? "type") : kindOf a = kindOf b := by
  simp only [kindOf, same]

theorem kindOf_eq_ok {fields : Fields} {kind : String} :
    kindOf fields = .ok kind ↔ fields.get? "type" = some (.text kind) := by
  unfold kindOf
  split <;> simp_all

/-- The keys under which the entries around a node tell its device and a rate limit. No node has such fields itself. -/
def outerKeys : List String := ["device_id", "min_interval_seconds"]

section Outer

variable {outer fields : Fields} {key : String}

theorem get?_of_outer (inner : ∀ entry ∈ fields, entry.1 ∉ outerKeys) (isOuter : key ∈ outerKeys) :
    fields.get? key = none := by
  refine List.lookup_eq_none_iff.mpr fun entry member => ?_
  have other : key ≠ entry.1 := fun same => inner entry member (same ▸ isOuter)
  simpa using other

theorem get?_deviceField (device : Option DeviceId) (isInner : key ∉ outerKeys) :
    Fields.get? (deviceField device) key = none := by
  cases device with
  | none => rfl
  | some d =>
      have other : key ≠ "device_id" := fun same => isInner (same ▸ by decide)
      simp [deviceField, other]

theorem deviceOf_deviceField (device : Option DeviceId) (inner : ∀ entry ∈ fields, entry.1 ∉ outerKeys) :
    deviceOf (.object (deviceField device ++ fields)) = device := by
  have unnamed : fields.get? "device_id" = none := get?_of_outer inner (by decide)
  cases device with
  | none => simp [deviceOf, deviceField, Json.textAt?, Json.get?, unnamed]
  | some d => simp [deviceOf, deviceField, Json.textAt?, Json.get?, Json.text?]

end Outer

theorem Json.float?_isFinite {json : Json} {x : Float} (found : json.float? = some x) : x.isFinite = true := by
  have kept {y : Float} (found : finite? y = some x) : x.isFinite = true := by
    unfold finite? at found
    split_ifs at found with finite
    exact Option.some.inj found ▸ finite
  cases json with
  | whole n => exact kept found
  | real y => exact kept found
  | _ => cases found

namespace Reader

/-- Whatever is read as a double is finite. -/
theorem double_eq_ok {json : Json} {x : Float} (read : double json = .ok x) : x.isFinite = true := by
  unfold double at read
  split at read
  case h_1 y found => exact Except.ok.inj read ▸ Json.float?_isFinite found
  case h_2 => cases read

theorem double_real {x : Float} (finite : x.isFinite = true) : double (.real x) = .ok x := by
  simp only [double, Json.float?, Json.finite?, finite, if_true]

theorem unsigned_whole {bits n : Nat} (fits : (n : Int) < 1 <<< bits) : unsigned bits (.whole n) = .ok n :=
  if_pos ⟨Int.natCast_nonneg n, fits⟩

theorem byte_whole (n : UInt8) : byte (.whole n.toNat) = .ok n := by
  have fits : (n.toNat : Int) < 1 <<< 8 := by exact_mod_cast n.toNat_lt
  rw [byte, unsigned_whole fits]
  exact congrArg Except.ok n.ofNat_toNat

theorem word_whole (n : UInt32) : word (.whole n.toNat) = .ok n := by
  have fits : (n.toNat : Int) < 1 <<< 32 := by exact_mod_cast n.toNat_lt
  rw [word, unsigned_whole fits]
  exact congrArg Except.ok n.ofNat_toNat

theorem long_whole (n : UInt64) : long (.whole n.toNat) = .ok n := by
  have fits : (n.toNat : Int) < 1 <<< 64 := by exact_mod_cast n.toNat_lt
  rw [long, unsigned_whole fits]
  exact congrArg Except.ok n.ofNat_toNat

theorem items_map {α : Type} {read : Reader α} {write : α → Json} (back : ∀ x, read (write x) = .ok x)
    (xs : List α) : items read (xs.map write) = .ok xs := by
  induction xs with
  | nil => rfl
  | cons x rest ih => simp only [List.map_cons, items, back, ih, Except.ok_bind, Except.pure_eq_ok]

theorem textMap_texts (texts : List (String × String)) :
    textMap (.object (texts.map fun (name, value) => (name, .text value))) = .ok texts := by
  change textEntries _ = _
  induction texts with
  | nil => rfl
  | cons entry rest ih => simp only [List.map_cons, textEntries, text, ih, Except.ok_bind, Except.pure_eq_ok]

theorem instant_text {t : Instant} (inYears : 0 ≤ t.year ∧ t.year ≤ 9999) :
    instant (.text t.text) = .ok (some t) := by
  simp [instant, optional, text, t.ofText?_text inYears]

theorem choice_comparison (c : Comparison) : choice Comparison.table (.text c.name) = .ok c := by
  cases c <;> rfl

theorem choice_direction (d : Direction) : choice Direction.table (.text d.name) = .ok d := by
  cases d <;> rfl

theorem choice_connective (c : Connective) : choice Connective.table (.text c.name) = .ok c := by
  cases c <;> rfl

theorem method_name (m : HttpMethod) : method (.text m.name) = .ok m := by
  cases m <;> rfl

end Reader

end DeviceRules
