import DeviceRules.Proofs.Evaluation.Reached

/-! The questions of an evaluation. They are those of the leaves that it reaches, each once and in the order of the
document. A leaf is reached when no child before it has decided a composite above it and no question before it has
failed. It asks about the device of its own node, and without one it asks nothing. -/
namespace DeviceRules

/-- An item of two lists in a row stands in the first of them, or behind the first in the second. -/
theorem append_eq_append_cons {α : Type} {first second ahead behind : List α} {item : α}
    (split : first ++ second = ahead ++ item :: behind) :
    (∃ rest, first = ahead ++ item :: rest) ∨ ∃ more, ahead = first ++ more ∧ second = more ++ item :: behind := by
  rcases List.append_eq_append_iff.mp split with ⟨more, rfl, same⟩ | ⟨rest, same, tail⟩
  · exact .inr ⟨more, rfl, same⟩
  · cases rest with
    | nil => exact .inr ⟨[], by simpa using same.symm, tail.symm⟩
    | cons other rest =>
        obtain ⟨rfl, -⟩ := List.cons.inj tail
        exact .inl ⟨rest, same⟩

/-- A node acts on the device that it names itself, unless the name is blank. -/
theorem Addressed.target?_eq_some_iff {α : Type} {a : Addressed α} {d : DeviceId} :
    a.target? = some d ↔ a.device = some d ∧ d.isBlank = false := by
  have kept (named : DeviceId) : named.target? = some d ↔ named = d ∧ d.isBlank = false := by
    unfold DeviceId.target?
    split <;> grind
  simp only [target?, Option.bind_eq_some_iff, kept]
  grind

namespace Condition

mutual

/-- The leaves of a condition in the order of the document, each with the device that its own node names. -/
def leaves (named : Option DeviceId) : Condition → List (Addressed Condition)
  | composite _ children => leavesOf children
  | leaf => [⟨named, leaf⟩]

def leavesOf : List (Addressed Condition) → List (Addressed Condition)
  | [] => []
  | ⟨named, node⟩ :: rest => node.leaves named ++ leavesOf rest

end

variable {telemetry : Telemetry} {moment : Moment}

def Spot.task (spot : Spot) : Option DeviceId × Condition := (spot.device, spot.leaf)

/-- The spots of a condition are its leaves, in the order of the document and for the devices of their own nodes. -/
theorem childSpots_tasks {connective : Connective} {children : List (Addressed Condition)}
    (each : ∀ child ∈ children, (child.node.spots child.target?).map Spot.task =
      (child.node.leaves child.device).map fun leaf => (leaf.target?, leaf.node)) :
    ∀ before : List (Addressed Condition), (childSpots connective before children).map Spot.task =
      (leavesOf children).map fun leaf => (leaf.target?, leaf.node) := by
  induction children with
  | nil => exact fun _ => rfl
  | cons child rest ih =>
      intro before
      obtain ⟨here, others⟩ := List.forall_mem_cons.mp each
      obtain ⟨device, node⟩ := child
      simp only [childSpots, leavesOf, List.map_append, List.map_map, ih others, ← here]
      rfl

theorem spots_tasks (c : Condition) : ∀ device : Option DeviceId,
    (c.spots (device.bind DeviceId.target?)).map Spot.task =
      (c.leaves device).map fun leaf => (leaf.target?, leaf.node) := by
  induction c using Condition.nodeInduction with
  | composite connective children ih =>
      exact fun _ => childSpots_tasks (fun child inside => ih child inside child.device) []
  | _ => exact fun _ => rfl

/-- The questions of a leaf, by its kind. -/
theorem query?_eq_some_iff {c : Condition} {device : Option DeviceId} {query : Query} :
    c.query? moment device = some query ↔ ∃ d, device = some d ∧
      ((∃ t, c = threshold t ∧ query = .samples d t.dataType (moment.now.windowStart t.windowMinutes) 1) ∨
        (∃ t, c = change t ∧ query = .samples d t.dataType (moment.now.windowStart t.windowMinutes) 2) ∨
        ∃ expected, c = status expected ∧ query = .status d) := by
  cases c <;> cases device <;> simp [query?, eq_comm]

instance (telemetry : Telemetry) (moment : Moment) (spot : Spot) : Decidable (spot.IsReached telemetry moment) :=
  decidable_of_iff (∀ level ∈ spot.levels, ∀ e ∈ level.earlier,
    (e.judge telemetry moment).value.toOption = some level.connective.neutral) (by
      simp only [Spot.IsReached, ← judge_iff_answers]
      refine forall₄_congr fun level _ e _ => ?_
      cases (e.judge telemetry moment).value <;> simp [Except.toOption])

/-- The questions of the leaves among some spots that are reached. -/
def askedAt (telemetry : Telemetry) (moment : Moment) (spots : List Spot) : List Query :=
  (spots.filter fun spot => spot.IsReached telemetry moment).filterMap fun spot => spot.query? moment

theorem askedAt_append (first rest : List Spot) :
    askedAt telemetry moment (first ++ rest) = askedAt telemetry moment first ++ askedAt telemetry moment rest := by
  simp only [askedAt, List.filter_append, List.filterMap_append]

/-- Below a composite that the walk has not left, the same leaves are reached. -/
theorem askedAt_under {level : Level} (passed : ∀ e ∈ level.earlier,
    Answers telemetry moment (Addressed.target? e) e.node level.connective.neutral) (spots : List Spot) :
    askedAt telemetry moment (spots.map (Spot.under level)) = askedAt telemetry moment spots := by
  have same (spot : Spot) : (spot.under level).IsReached telemetry moment ↔ spot.IsReached telemetry moment :=
    Spot.isReached_under.trans (and_iff_right passed)
  simp only [askedAt, List.filter_map, List.filterMap_map, Function.comp_def, same]
  rfl

/-- After a child that has not passed, nothing is reached. -/
theorem askedAt_after_stop {connective : Connective} {before rest : List (Addressed Condition)}
    {child : Addressed Condition} (inside : child ∈ before)
    (stops : (child.judge telemetry moment).value ≠ .ok connective.neutral) :
    askedAt telemetry moment (childSpots connective before rest) = [] := by
  have unreached : ∀ spot ∈ childSpots connective before rest, ¬ spot.IsReached telemetry moment := by
    intro spot member reached
    obtain ⟨earlier, _, _, inner, _, _, rfl⟩ := mem_childSpots.mp member
    have passed := (Spot.isReached_under.mp reached).1 child (List.mem_append_left earlier inside)
    exact stops (judge_iff_answers.mpr passed)
  rw [askedAt, List.filter_eq_nil_iff.mpr fun spot member => by simpa using unreached spot member]
  rfl

/-- The walk through the children that follow the `before` ones. -/
theorem settle_asks {connective : Connective} {children : List (Addressed Condition)}
    (each : ∀ child ∈ children, (child.node.evaluate telemetry moment child.target?).queries =
      askedAt telemetry moment (child.node.spots child.target?)) :
    ∀ before : List (Addressed Condition),
      (∀ e ∈ before, Answers telemetry moment (Addressed.target? e) e.node connective.neutral) →
      (settle telemetry moment connective children).queries =
        askedAt telemetry moment (childSpots connective before children) := by
  induction children with
  | nil => exact fun _ _ => rfl
  | cons first rest ih =>
      intro before passed
      obtain ⟨here, others⟩ := List.forall_mem_cons.mp each
      have spots : childSpots connective before (first :: rest) =
          (first.node.spots first.target?).map (Spot.under ⟨connective, before⟩) ++
            childSpots connective (before ++ [first]) rest := rfl
      rw [spots, askedAt_append, askedAt_under passed, ← here, ← judge_queries]
      by_cases passes : (first.judge telemetry moment).value = .ok connective.neutral
      · have neutral : ∀ e ∈ before ++ [first],
            Answers telemetry moment (Addressed.target? e) e.node connective.neutral :=
          List.forall_mem_append.mpr ⟨passed, List.forall_mem_singleton.mpr (judge_iff_answers.mp passes)⟩
        rw [← ih others _ neutral, settle_cons_of_neutral rest passes]
        exact List.filterMap_append
      · rw [settle_cons_of_ne rest passes, askedAt_after_stop (by simp) passes, List.append_nil]

theorem evaluate_asks (c : Condition) : ∀ device : Option DeviceId,
    (c.evaluate telemetry moment device).queries = askedAt telemetry moment (c.spots device) := by
  induction c using Condition.leafInduction with
  | leaf c leaf =>
      intro device
      have reached : (Spot.mk [] device c).IsReached telemetry moment := by simp [Spot.IsReached]
      rw [spots_of_leaf leaf, askedAt, List.filter_cons_of_pos (by simpa using reached), List.filter_nil]
      rcases leaf_cases leaf telemetry moment device with ⟨none, silent, _⟩ | ⟨query, own, questions, _⟩
      · rw [silent]
        simp [Spot.query?, none]
      · rw [questions]
        simp [Spot.query?, own]
  | composite connective children ih =>
      exact fun _ => settle_asks (fun child inside => ih child inside child.target?) [] (by simp)

/-- A composite above the leaf has been decided by a child before it. -/
def Spot.IsDecided (telemetry : Telemetry) (moment : Moment) (spot : Spot) : Prop :=
  ∃ level ∈ spot.levels, ∃ e ∈ level.earlier,
    Answers telemetry moment (Addressed.target? e) e.node (!level.connective.neutral)

/-- The leaf is reached, and its question fails. -/
def Spot.Breaks (telemetry : Telemetry) (moment : Moment) (spot : Spot) : Prop :=
  spot.IsReached telemetry moment ∧ ∃ query, spot.query? moment = some query ∧ telemetry.Fails query

theorem Spot.isDecided_under {level : Level} {spot : Spot} :
    (spot.under level).IsDecided telemetry moment ↔
      (∃ e ∈ level.earlier, Answers telemetry moment (Addressed.target? e) e.node (!level.connective.neutral)) ∨
        spot.IsDecided telemetry moment := by
  simp only [IsDecided, under, List.mem_cons, exists_eq_or_imp]

theorem Spot.breaks_under {level : Level} {spot : Spot} :
    (spot.under level).Breaks telemetry moment ↔
      (∀ e ∈ level.earlier, Answers telemetry moment (Addressed.target? e) e.node level.connective.neutral) ∧
        spot.Breaks telemetry moment := by
  rw [Breaks, Spot.isReached_under, and_assoc]
  rfl

theorem outage_iff_breaks {c : Condition} {device : Option DeviceId} :
    (∃ outage, (c.evaluate telemetry moment device).value = .error (.outage outage)) ↔
      ∃ spot ∈ c.spots device, spot.Breaks telemetry moment := by
  constructor
  · rintro ⟨outage, failed⟩
    obtain ⟨_, query, spot, _, fails, _, member, reached, own⟩ := failure_of_outage c device outage failed
    exact ⟨spot, member, reached, query, own, fails⟩
  · rintro ⟨spot, member, reached, query, own, fails⟩
    exact outage_of_failure c device spot query member reached own fails

/-- A leaf below some children, with the leaves before it: those of the earlier children and those of its own child. -/
theorem childSpots_split {connective : Connective} {children : List (Addressed Condition)} {spot : Spot} :
    ∀ {before : List (Addressed Condition)} {ahead behind : List Spot},
      childSpots connective before children = ahead ++ spot :: behind →
      ∃ earlier child later inner first rest, children = earlier ++ child :: later ∧
        child.node.spots child.target? = first ++ inner :: rest ∧
        spot = inner.under ⟨connective, before ++ earlier⟩ ∧
        ahead = childSpots connective before earlier ++ first.map (Spot.under ⟨connective, before ++ earlier⟩) := by
  induction children with
  | nil =>
      intro before ahead behind split
      simp [childSpots] at split
  | cons head tail ih =>
      intro before ahead behind whole
      have spots (rest : List (Addressed Condition)) : childSpots connective before (head :: rest) =
          (head.node.spots head.target?).map (Spot.under ⟨connective, before⟩) ++
            childSpots connective (before ++ [head]) rest := rfl
      rw [spots] at whole
      -- The leaf stands below the first child, or below one of those after it.
      rcases append_eq_append_cons whole with ⟨_, mapped⟩ | ⟨more, rfl, split⟩
      · obtain ⟨first, _, own, rfl, found⟩ := List.map_eq_append_iff.mp mapped
        obtain ⟨inner, rest, rfl, rfl, -⟩ := List.map_eq_cons_iff.mp found
        exact ⟨[], head, tail, inner, first, rest, rfl, own, by rw [List.append_nil], by rw [List.append_nil]; rfl⟩
      · obtain ⟨earlier, child, later, inner, first, rest, rfl, own, rfl, rfl⟩ := ih split
        have place : before ++ [head] ++ earlier = before ++ head :: earlier := List.append_cons .. |>.symm
        refine ⟨head :: earlier, child, later, inner, first, rest, rfl, own, by rw [place], ?_⟩
        rw [spots, place, List.append_assoc]

/-- The children before a leaf pass when none of them decides and no leaf below them breaks. -/
theorem passed_of_unbroken {connective : Connective} {earlier : List (Addressed Condition)}
    (undecided : ∀ e ∈ earlier, ¬ Answers telemetry moment (Addressed.target? e) e.node (!connective.neutral))
    (unbroken : ∀ spot ∈ childSpots connective [] earlier, ¬ spot.Breaks telemetry moment) :
    ∀ e ∈ earlier, Answers telemetry moment (Addressed.target? e) e.node connective.neutral := by
  rcases exists_first_stop telemetry moment connective earlier with
    all | ⟨before, child, later, split, passed, stops⟩
  · exact fun e inside => judge_iff_answers.mp (all e inside)
  · -- The first child that does not pass would decide, or fail at a leaf that breaks.
    exfalso
    cases value : (child.judge telemetry moment).value with
    | ok b =>
        have deciding : b = !connective.neutral :=
          connective.eq_not_neutral fun same => stops (value.trans (congrArg _ same))
        exact undecided child (by simp [split]) (judge_iff_answers.mp (deciding ▸ value))
    | error fault =>
        obtain ⟨failed, unforgiven⟩ := judge_error value
        obtain ⟨outage, rfl⟩ := (evaluate_error child.node failed).resolve_left fun ⟨error, same⟩ =>
          unforgiven error same
        obtain ⟨spot, member, breaks⟩ := outage_iff_breaks.mp ⟨outage, failed⟩
        refine unbroken (spot.under ⟨connective, before⟩) ?_ ?_
        · exact mem_childSpots.mpr ⟨before, child, later, spot, split, member, rfl⟩
        · exact Spot.breaks_under.mpr ⟨fun e inside => judge_iff_answers.mp (passed e inside), breaks⟩

/-- No leaf breaks below children that have passed, and none of them decides. -/
theorem unbroken_of_passed {connective : Connective} {earlier : List (Addressed Condition)}
    (passed : ∀ e ∈ earlier, Answers telemetry moment (Addressed.target? e) e.node connective.neutral) :
    (∀ e ∈ earlier, ¬ Answers telemetry moment (Addressed.target? e) e.node (!connective.neutral)) ∧
      ∀ spot ∈ childSpots connective [] earlier, ¬ spot.Breaks telemetry moment := by
  constructor
  · intro e inside decides
    have both := (judge_iff_answers.mpr (passed e inside)).symm.trans (judge_iff_answers.mpr decides)
    simp at both
  · intro spot member breaks
    obtain ⟨before, child, later, inner, split, own, rfl⟩ := mem_childSpots.mp member
    obtain ⟨outage, failed⟩ := outage_iff_breaks.mpr ⟨inner, own, (Spot.breaks_under.mp breaks).2⟩
    exact definite_of_judge (judge_iff_answers.mpr (passed child (by simp [split]))) outage failed

/-- A leaf is reached unless something above it is decided before or a question before it fails. -/
theorem isReached_iff (c : Condition) : ∀ {device : Option DeviceId} {ahead behind : List Spot} {spot : Spot},
    c.spots device = ahead ++ spot :: behind →
      (spot.IsReached telemetry moment ↔
        ¬ spot.IsDecided telemetry moment ∧ ∀ other ∈ ahead, ¬ other.Breaks telemetry moment) := by
  induction c using Condition.leafInduction with
  | leaf c leaf =>
      intro device ahead behind spot split
      rw [spots_of_leaf leaf] at split
      obtain ⟨rfl, same⟩ | ⟨_, none⟩ := List.singleton_eq_append_iff.mp split
      · cases same
        simp [Spot.IsReached, Spot.IsDecided]
      · contradiction
  | composite connective children ih =>
      intro device ahead behind spot split
      obtain ⟨earlier, child, later, inner, first, rest, place, own, rfl, rfl⟩ := childSpots_split split
      rw [List.nil_append, Spot.isReached_under, Spot.isDecided_under, ih child (by simp [place]) own]
      constructor
      · rintro ⟨passed, undecided, unbroken⟩
        obtain ⟨here, quiet⟩ := unbroken_of_passed passed
        refine ⟨?_, ?_⟩
        · rintro (⟨e, inside, decides⟩ | decided)
          · exact here e inside decides
          · exact undecided decided
        · intro other member breaks
          rcases List.mem_append.mp member with before | inside
          · exact quiet other before breaks
          · obtain ⟨o, position, rfl⟩ := List.mem_map.mp inside
            exact unbroken o position (Spot.breaks_under.mp breaks).2
      · rintro ⟨undecided, unbroken⟩
        have passed := passed_of_unbroken
          (fun e inside decides => undecided (.inl ⟨e, inside, decides⟩))
          (fun spot member => unbroken spot (List.mem_append_left _ member))
        refine ⟨passed, fun decided => undecided (.inr decided), fun o member breaks => ?_⟩
        exact unbroken _ (List.mem_append_right _ (List.mem_map_of_mem member))
          (Spot.breaks_under.mpr ⟨passed, breaks⟩)

/-- An evaluation asks the questions of just the leaves that it reaches, each once and in the order of the document. A
leaf is reached unless a composite above it is decided before it or a question before it fails. The leaves are those of
the document, each for the device of its own node unless that is blank; only a condition that is a leaf takes the given
device. A threshold asks for one sample and a change for two, both since the start of their own windows. -/
theorem evaluation_asks_at_reached_leaves (telemetry : Telemetry) (moment : Moment) (device : Option DeviceId)
    (c : Condition) :
    (c.evaluate telemetry moment device).queries =
      ((c.spots device).filter fun spot => spot.IsReached telemetry moment).filterMap (fun spot => spot.query? moment) ∧
    (∀ ahead spot behind, c.spots device = ahead ++ spot :: behind →
      (spot.IsReached telemetry moment ↔
        ¬ spot.IsDecided telemetry moment ∧ ∀ other ∈ ahead, ¬ other.Breaks telemetry moment)) ∧
    (c.isLeaf = true → c.spots device = [⟨[], device, c⟩]) ∧
    (∀ connective children, c = composite connective children →
      (c.spots device).map (fun spot => (spot.device, spot.leaf)) =
        (leavesOf children).map fun leaf => (leaf.target?, leaf.node)) ∧
    (∀ (leaf : Addressed Condition) (d : DeviceId),
      leaf.target? = some d ↔ leaf.device = some d ∧ d.isBlank = false) ∧
    ∀ spot ∈ c.spots device, ∀ query, spot.query? moment = some query ↔ ∃ d, spot.device = some d ∧
      ((∃ t, spot.leaf = threshold t ∧
          query = .samples d t.dataType (moment.now.windowStart t.windowMinutes) 1) ∨
        (∃ t, spot.leaf = change t ∧
          query = .samples d t.dataType (moment.now.windowStart t.windowMinutes) 2) ∨
        ∃ expected, spot.leaf = status expected ∧ query = .status d) := by
  refine ⟨evaluate_asks c device, fun _ _ _ => isReached_iff c, fun leaf => spots_of_leaf leaf device, ?_,
    fun leaf d => leaf.target?_eq_some_iff, fun spot _ query => query?_eq_some_iff⟩
  rintro connective children rfl
  exact spots_tasks (composite connective children) none

end Condition

end DeviceRules
