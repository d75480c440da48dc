import DeviceRules.Json.Basic
import Mathlib.Data.List.Basic

/-! JSON values as trees: induction over them, how deep they are, and what becomes of the entries of an object when
they are sorted. -/
namespace DeviceRules

namespace Json

@[elab_as_elim]
theorem nodeInduction {motive : Json → Prop} (null : motive .null) (bool : ∀ b, motive (.bool b))
    (whole : ∀ n, motive (.whole n)) (real : ∀ x, motive (.real x)) (text : ∀ s, motive (.text s))
    (array : ∀ items, (∀ item ∈ items, motive item) → motive (.array items))
    (object : ∀ entries, (∀ entry ∈ entries, motive entry.2) → motive (.object entries)) (json : Json) :
    motive json := by
  refine @Json.rec motive (fun items => ∀ item ∈ items, motive item) (fun entries => ∀ entry ∈ entries, motive entry.2)
    (fun entry => motive entry.2) null bool whole real text array object ?_ ?_ ?_ ?_ ?_ json
  · simp
  · intro item rest holds below
    exact List.forall_mem_cons.mpr ⟨holds, below⟩
  · simp
  · intro entry rest holds below
    exact List.forall_mem_cons.mpr ⟨holds, below⟩
  · intro key value holds
    exact holds

variable {json : Json} {items : List Json} {entries : Fields} {n : Nat}

theorem itemsDepth_le : itemsDepth items ≤ n ↔ ∀ item ∈ items, item.depth ≤ n := by
  induction items with
  | nil => simp [itemsDepth]
  | cons item rest ih => rw [itemsDepth, Nat.max_le, ih, List.forall_mem_cons]

theorem entriesDepth_le : entriesDepth entries ≤ n ↔ ∀ entry ∈ entries, entry.2.depth ≤ n := by
  induction entries with
  | nil => simp [entriesDepth]
  | cons entry rest ih => rw [entriesDepth, Nat.max_le, ih, List.forall_mem_cons]

theorem depth_array_le : (array items).depth ≤ n + 1 ↔ ∀ item ∈ items, item.depth ≤ n := by
  rw [depth, Nat.add_le_add_iff_right, itemsDepth_le]

theorem depth_object_le : (object entries).depth ≤ n + 1 ↔ ∀ entry ∈ entries, entry.2.depth ≤ n := by
  rw [depth, Nat.add_le_add_iff_right, entriesDepth_le]

/-- Whether every whole number of a value fits 64 bits, with a sign or without. A text with any other whole number
is read as a double there. -/
inductive InRange : Json → Prop
  | null : InRange .null
  | bool (b : Bool) : InRange (.bool b)
  | whole {n : Int} (least : -0x8000000000000000 ≤ n) (most : n < 0x10000000000000000) : InRange (.whole n)
  | real (x : Float) : InRange (.real x)
  | text (s : String) : InRange (.text s)
  | array {items : List Json} (each : ∀ item ∈ items, InRange item) : InRange (.array items)
  | object {entries : Fields} (each : ∀ entry ∈ entries, InRange entry.2) : InRange (.object entries)

/-- Whether no more than `limit` arrays and objects are open inside each other, and every whole number is in range. -/
structure Readable (limit : Nat) (json : Json) : Prop where
  inRange : json.InRange
  depth_le : json.depth ≤ limit

theorem Readable.of_flat (inRange : json.InRange) (flat : json.depth = 0) : Readable n json :=
  ⟨inRange, flat ▸ Nat.zero_le n⟩

theorem Readable.mono {limit : Nat} (readable : Readable n json) (le : n ≤ limit) : Readable limit json :=
  ⟨readable.inRange, Nat.le_trans readable.depth_le le⟩

theorem readable_null : Readable n .null := .of_flat .null rfl

theorem readable_bool (b : Bool) : Readable n (.bool b) := .of_flat (.bool b) rfl

theorem readable_real (x : Float) : Readable n (.real x) := .of_flat (.real x) rfl

theorem readable_text (s : String) : Readable n (.text s) := .of_flat (.text s) rfl

theorem readable_natural {k : Nat} (small : k < 0x10000000000000000) : Readable n (.whole k) :=
  .of_flat (.whole (by omega) (by omega)) rfl

theorem readable_array : Readable (n + 1) (.array items) ↔ ∀ item ∈ items, Readable n item := by
  constructor
  · rintro ⟨inRange, depth⟩ item member
    cases inRange with
    | array each => exact ⟨each item member, depth_array_le.mp depth item member⟩
  · intro each
    exact ⟨.array fun item member => (each item member).inRange,
      depth_array_le.mpr fun item member => (each item member).depth_le⟩

theorem readable_object : Readable (n + 1) (.object entries) ↔ ∀ entry ∈ entries, Readable n entry.2 := by
  constructor
  · rintro ⟨inRange, depth⟩ entry member
    cases inRange with
    | object each => exact ⟨each entry member, depth_object_le.mp depth entry member⟩
  · intro each
    exact ⟨.object fun entry member => (each entry member).inRange,
      depth_object_le.mpr fun entry member => (each entry member).depth_le⟩

/-- An array that can be read needs one level for itself. -/
theorem Readable.exists_array (readable : Readable n (.array items)) :
    ∃ m, n = m + 1 ∧ ∀ item ∈ items, Readable m item := by
  cases n with
  | zero => exact absurd readable.depth_le (Nat.not_succ_le_zero _)
  | succ m => exact ⟨m, rfl, readable_array.mp readable⟩

theorem Readable.exists_object (readable : Readable n (.object entries)) :
    ∃ m, n = m + 1 ∧ ∀ entry ∈ entries, Readable m entry.2 := by
  cases n with
  | zero => exact absurd readable.depth_le (Nat.not_succ_le_zero _)
  | succ m => exact ⟨m, rfl, readable_object.mp readable⟩

end Json

namespace Fields

variable {fields : Fields} {key : String} {value : Json}

theorem mem_of_get? (found : fields.get? key = some value) : (key, value) ∈ fields := by
  obtain ⟨before, after, rfl, -⟩ := List.lookup_eq_some_iff.mp found
  exact List.mem_append_right _ List.mem_cons_self

theorem mem_insert {entry : String × Json} (member : entry ∈ insert key value fields) :
    entry = (key, value) ∨ entry ∈ fields := by
  induction fields with
  | nil => exact .inl (List.mem_singleton.mp member)
  | cons first rest ih =>
      obtain ⟨name, other⟩ := first
      unfold insert at member
      split_ifs at member
      · exact List.mem_cons.mp member
      · exact (List.mem_cons.mp member).imp_right (List.mem_cons_of_mem _)
      · obtain rfl | member := List.mem_cons.mp member
        · exact .inr List.mem_cons_self
        · exact (ih member).imp_right (List.mem_cons_of_mem _)

theorem mem_of_mem_sorted {entry : String × Json} (member : entry ∈ sorted fields) : entry ∈ fields := by
  have step (done : Fields) (member : entry ∈ fields.foldl (fun done entry => insert entry.1 entry.2 done) done) :
      entry ∈ done ∨ entry ∈ fields := by
    clear * - member
    induction fields generalizing done with
    | nil => exact .inl member
    | cons first rest ih =>
        obtain kept | later := ih _ member
        · obtain rfl | kept := mem_insert kept
          · exact .inr List.mem_cons_self
          · exact .inl kept
        · exact .inr (List.mem_cons_of_mem _ later)
  exact (step [] member).resolve_left List.not_mem_nil

end Fields

end DeviceRules
