import DeviceRules.Sample
import Mathlib.Data.List.Forall2

/-! What sorting by insertion comes to. The items that it puts in order are those that it was given, and an order with
at most one way to put them makes two sorts agree, however they compare. -/
namespace DeviceRules

variable {α β : Type} {precedes : α → α → Bool}

theorem insertBy_perm (a : α) (items : List α) : (insertBy precedes a items).Perm (a :: items) := by
  induction items with
  | nil => exact .refl _
  | cons b rest ih =>
      simp only [insertBy]
      split
      · exact .refl _
      · exact (ih.cons b).trans (.swap a b rest)

theorem sortBy_perm (items : List α) : (sortBy precedes items).Perm items := by
  induction items with
  | nil => exact .refl _
  | cons a rest ih => exact (insertBy_perm a _).trans (ih.cons a)

section Ordered

variable {r : α → α → Prop}

/-- An item is inserted where an order says that it belongs. -/
theorem insertBy_pairwise (trans : ∀ a b c, r a b → r b c → r a c) {a : α} {items : List α}
    (place : ∀ b ∈ items, if precedes a b then r a b else r b a) (ordered : items.Pairwise r) :
    (insertBy precedes a items).Pairwise r := by
  induction items with
  | nil => exact List.pairwise_singleton r a
  | cons b rest ih =>
      obtain ⟨here, others⟩ := List.forall_mem_cons.mp place
      obtain ⟨first, ordered⟩ := List.pairwise_cons.mp ordered
      simp only [insertBy]
      split
      · rename_i front
        rw [if_pos front] at here
        refine List.pairwise_cons.mpr ⟨?_, List.pairwise_cons.mpr ⟨first, ordered⟩⟩
        exact List.forall_mem_cons.mpr ⟨here, fun c member => trans a b c here (first c member)⟩
      · rename_i behind
        rw [if_neg behind] at here
        refine List.pairwise_cons.mpr ⟨fun c member => ?_, ih others ordered⟩
        rcases List.mem_cons.mp ((insertBy_perm a rest).mem_iff.mp member) with rfl | inside
        · exact here
        · exact first c inside

theorem sortBy_pairwise (trans : ∀ a b c, r a b → r b c → r a c) {items : List α}
    (place : items.Pairwise fun a b => if precedes a b then r a b else r b a) :
    (sortBy precedes items).Pairwise r := by
  induction items with
  | nil => exact .nil
  | cons a rest ih =>
      obtain ⟨first, others⟩ := List.pairwise_cons.mp place
      refine insertBy_pairwise trans (fun b member => ?_) (ih others)
      exact first b ((sortBy_perm rest).mem_iff.mp member)

/-- Two sorts of the same items that both come to an order agree, if no two items are in that order both ways. -/
theorem sortBy_eq_of_perm {other : α → α → Bool} (trans : ∀ a b c, r a b → r b c → r a c) {items others : List α}
    (perm : items.Perm others) (antisymm : ∀ a ∈ items, ∀ b ∈ items, r a b → r b a → a = b)
    (place : items.Pairwise fun a b => if precedes a b then r a b else r b a)
    (otherPlace : others.Pairwise fun a b => if other a b then r a b else r b a) :
    sortBy precedes items = sortBy other others := by
  have same : (sortBy precedes items).Perm (sortBy other others) :=
    ((sortBy_perm items).trans perm).trans (sortBy_perm others).symm
  refine same.eq_of_pairwise (fun a b mine theirs => ?_) (sortBy_pairwise trans place) (sortBy_pairwise trans otherPlace)
  exact antisymm a ((sortBy_perm items).mem_iff.mp mine) b (perm.mem_iff.mpr ((sortBy_perm others).mem_iff.mp theirs))

end Ordered

section Classes

/-- An item that goes behind a whole first part is inserted into the second. -/
theorem insertBy_append_of_behind {a : α} {first : List α} (behind : ∀ b ∈ first, precedes a b = false)
    (second : List α) : insertBy precedes a (first ++ second) = first ++ insertBy precedes a second := by
  induction first with
  | nil => rfl
  | cons b rest ih =>
      obtain ⟨here, others⟩ := List.forall_mem_cons.mp behind
      simp only [List.cons_append, insertBy, here, Bool.false_eq_true, if_false, ih others]

/-- An item that goes in front of a whole second part is inserted into the first. -/
theorem insertBy_append_of_front {a : α} {second : List α} (front : ∀ b ∈ second, precedes a b = true)
    (first : List α) : insertBy precedes a (first ++ second) = insertBy precedes a first ++ second := by
  induction first with
  | nil =>
      cases second with
      | nil => rfl
      | cons b rest => exact if_pos (front b List.mem_cons_self)
  | cons b rest ih =>
      simp only [List.cons_append, insertBy, ih]
      split <;> rfl

/-- When each item of a class goes in front of every item outside, the class is sorted first and by itself. -/
theorem sortBy_eq_append {p : α → Bool} {items : List α}
    (apart : ∀ a ∈ items, ∀ b ∈ items, p a = true → p b = false → precedes a b = true ∧ precedes b a = false) :
    sortBy precedes items =
      sortBy precedes (items.filter p) ++ sortBy precedes (items.filter fun a => !p a) := by
  induction items with
  | nil => rfl
  | cons a rest ih =>
      have inRest {q : α → Bool} {b : α} (member : b ∈ sortBy precedes (rest.filter q)) : b ∈ rest ∧ q b = true :=
        List.mem_filter.mp ((sortBy_perm _).mem_iff.mp member)
      have sorted := ih fun b inside c below => apart b (.tail a inside) c (.tail a below)
      change insertBy precedes a (sortBy precedes rest) = _
      rw [sorted]
      cases mine : p a with
      | true =>
          rw [List.filter_cons_of_pos mine, List.filter_cons_of_neg (by simp [mine])]
          refine insertBy_append_of_front (fun b member => ?_) _
          obtain ⟨inside, other⟩ := inRest member
          exact (apart a List.mem_cons_self b (.tail a inside) mine (by simpa using other)).1
      | false =>
          rw [List.filter_cons_of_neg (by simp [mine]), List.filter_cons_of_pos (by simp [mine])]
          refine insertBy_append_of_behind (fun b member => ?_) _
          obtain ⟨inside, first⟩ := inRest member
          exact (apart b (.tail a inside) a List.mem_cons_self first mine).2

/-- The first of some sorted items stay the first ones when items are added that go behind all of them. -/
theorem take_sortBy_isPrefix {narrow wide : α → Bool} {items : List α} (inside : ∀ a, narrow a = true → wide a = true)
    (apart : ∀ a b, narrow a = true → wide b = true → narrow b = false → precedes a b = true ∧ precedes b a = false)
    (limit : Nat) :
    (sortBy precedes (items.filter narrow)).take limit <+: (sortBy precedes (items.filter wide)).take limit := by
  have split : sortBy precedes (items.filter wide) = sortBy precedes ((items.filter wide).filter narrow) ++
      sortBy precedes ((items.filter wide).filter fun a => !narrow a) :=
    sortBy_eq_append fun a _ b member mine other => apart a b mine (List.mem_filter.mp member).2 other
  have kept : (items.filter wide).filter narrow = items.filter narrow := by
    rw [List.filter_filter]
    refine List.filter_congr fun a _ => ?_
    cases mine : narrow a with
    | true => simp [inside a mine]
    | false => rfl
  rw [split, kept, List.take_append]
  exact List.prefix_append _ _

end Classes

section Related

variable {R : α → β → Prop} {other : β → β → Bool}
  (same : ∀ a b a' b', R a a' → R b b' → precedes a b = other a' b')

include same

theorem insertBy_forall₂ {a : α} {a' : β} (head : R a a') {items : List α} {others : List β}
    (related : List.Forall₂ R items others) :
    List.Forall₂ R (insertBy precedes a items) (insertBy other a' others) := by
  induction related with
  | nil => exact .cons head .nil
  | cons first rest ih =>
      simp only [insertBy, same _ _ _ _ head first]
      split
      · exact .cons head (.cons first rest)
      · exact .cons first ih

/-- Related items come out in the same places when they compare alike. -/
theorem sortBy_forall₂ {items : List α} {others : List β} (related : List.Forall₂ R items others) :
    List.Forall₂ R (sortBy precedes items) (sortBy other others) := by
  induction related with
  | nil => exact .nil
  | cons first _ ih => exact insertBy_forall₂ same first ih

omit same in
/-- Sorting what a function makes of some items is sorting the items by it. -/
theorem sortBy_map (f : β → α) (items : List β) :
    sortBy precedes (items.map f) = (sortBy (fun a b => precedes (f a) (f b)) items).map f := by
  have related : List.Forall₂ (fun a b => a = f b) (items.map f) items :=
    List.forall₂_map_left_iff.mpr (List.forall₂_same.mpr fun _ _ => rfl)
  have sorted : List.Forall₂ (fun a b => a = f b) (sortBy precedes (items.map f)) (sortBy _ items) :=
    sortBy_forall₂ (fun a b a' b' first second => by rw [first, second]) related
  exact List.forall₂_eq_eq_eq ▸ List.forall₂_map_right_iff.mpr sorted

end Related

end DeviceRules
