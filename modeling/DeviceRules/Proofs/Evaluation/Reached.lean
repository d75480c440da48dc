import DeviceRules.Proofs.Evaluation.Meaning

/-! Which leaves of a condition an evaluation comes to when some devices fail. A leaf is reached when, at every
composite above it, all children before it have answered without deciding. An evaluation fails with an outage just
when it reaches a leaf about a failing device, and that leaf asks the last question; all else depends on the other
devices alone. -/
namespace DeviceRules

namespace Condition

/-- The answer that a child gives to the composite above it, by rules: no query on the way to it fails, and a
misconfigured node answers false. -/
inductive Answers (telemetry : Telemetry) (moment : Moment) : Option DeviceId → Condition → Bool → Prop
  | misconfigured {device c error} (wrong : c.misconfiguration? device = some error) :
      Answers telemetry moment device c false
  | threshold {d c samples}
      (found : telemetry.samples d c.dataType (moment.now.windowStart c.windowMinutes) 1 = .ok samples) :
      Answers telemetry moment (some d) (.threshold c) (judgeThreshold c samples)
  | change {d c samples}
      (found : telemetry.samples d c.dataType (moment.now.windowStart c.windowMinutes) 2 = .ok samples) :
      Answers telemetry moment (some d) (.change c) (judgeChange c samples)
  | time {device c b} (read : c.holds moment = .ok b) : Answers telemetry moment device (.time c) b
  | status {d expected known} (found : telemetry.status d = .ok known) :
      Answers telemetry moment (some d) (.status expected) (known == some expected)
  | passed {device connective children}
      (all : ∀ child ∈ children, Answers telemetry moment (Addressed.target? child) child.node connective.neutral) :
      Answers telemetry moment device (composite connective children) connective.neutral
  | decided {device connective earlier child later}
      (all : ∀ e ∈ earlier, Answers telemetry moment (Addressed.target? e) e.node connective.neutral)
      (decides : Answers telemetry moment (Addressed.target? child) child.node (!connective.neutral)) :
      Answers telemetry moment device (composite connective (earlier ++ child :: later)) (!connective.neutral)

/-- A composite above a leaf: its connective, and its children before the one that the leaf is in. -/
structure Level where
  connective : Connective
  earlier : List (Addressed Condition)

/-- A leaf of a tree with the device that it is for and the composites above it, outermost first. -/
structure Spot where
  levels : List Level
  device : Option DeviceId
  leaf : Condition

namespace Spot

def under (level : Level) (spot : Spot) : Spot := { spot with levels := level :: spot.levels }

def query? (moment : Moment) (spot : Spot) : Option Query := spot.leaf.query? moment spot.device

/-- Evaluation from left to right comes to the leaf: nothing before it has decided or failed. -/
def IsReached (telemetry : Telemetry) (moment : Moment) (spot : Spot) : Prop :=
  ∀ level ∈ spot.levels, ∀ e ∈ level.earlier,
    Answers telemetry moment (Addressed.target? e) e.node level.connective.neutral

end Spot

mutual

def spots (device : Option DeviceId) : Condition → List Spot
  | composite connective children => childSpots connective [] children
  | leaf => [⟨[], device, leaf⟩]

/-- The leaves of the children that follow the `earlier` ones. -/
def childSpots (connective : Connective) (earlier : List (Addressed Condition)) :
    List (Addressed Condition) → List Spot
  | [] => []
  | ⟨device, node⟩ :: rest =>
      (node.spots (device.bind DeviceId.target?)).map (Spot.under ⟨connective, earlier⟩) ++
        childSpots connective (earlier ++ [⟨device, node⟩]) rest

end

variable {telemetry : Telemetry} {moment : Moment} {failing : DeviceId → Prop}

/-- Nothing but a misconfiguration and a failing query keeps a condition from having a value. -/
theorem evaluate_error (c : Condition) : ∀ {device : Option DeviceId} {fault : Fault},
    (c.evaluate telemetry moment device).value = .error fault →
      (∃ error, fault = .configuration error) ∨ ∃ outage, fault = .outage outage := by
  induction c using Condition.leafInduction with
  | leaf c leaf =>
      intro device fault failed
      have run := evaluate_leaf leaf telemetry moment device
      generalize c.evaluate telemetry moment device = traced at run failed
      cases run with
      | misconfigured => exact .inl ⟨_, (Except.error.inj failed).symm⟩
      | settled | answered => contradiction
      | failed => exact .inr ⟨_, (Except.error.inj failed).symm⟩
  | composite connective children ih =>
      intro device fault failed
      simp only [evaluate] at failed
      rcases settle_cases telemetry moment connective children with
        ⟨_, walk⟩ | ⟨earlier, child, later, split, _, _, walk⟩
      · rw [walk] at failed
        contradiction
      · rw [walk] at failed
        exact ih child (by simp [split]) (judge_error failed).1

theorem composite_error {connective : Connective} {children : List (Addressed Condition)}
    {device : Option DeviceId} {fault : Fault}
    (failed : ((composite connective children).evaluate telemetry moment device).value = .error fault) :
    ∃ outage, fault = .outage outage := by
  simp only [evaluate] at failed
  rcases settle_cases telemetry moment connective children with ⟨_, walk⟩ | ⟨earlier, child, later, _, _, _, walk⟩
  · rw [walk] at failed
    contradiction
  · rw [walk] at failed
    obtain ⟨inner, unforgiven⟩ := judge_error failed
    rcases evaluate_error child.node inner with ⟨error, same⟩ | outage
    · exact absurd same (unforgiven error)
    · exact outage

theorem misconfiguration_of_evaluate {c : Condition} {device : Option DeviceId} {error : ConfigurationError}
    (failed : (c.evaluate telemetry moment device).value = .error (.configuration error)) :
    c.misconfiguration? device = some error := by
  induction c using Condition.leafInduction with
  | leaf c leaf =>
      have run := evaluate_leaf leaf telemetry moment device
      generalize c.evaluate telemetry moment device = traced at run failed
      cases run with
      | misconfigured wrong =>
          cases failed
          exact wrong
      | settled | answered | failed => cases failed
  | composite connective children _ =>
      obtain ⟨outage, same⟩ := composite_error failed
      contradiction

theorem forgive_ok {kind : String} {child : Traced (Except Fault Bool)} {b : Bool}
    (found : (forgive kind child).value = .ok b) :
    child.value = .ok b ∨ b = false ∧ ∃ error, child.value = .error (.configuration error) := by
  unfold forgive at found
  split at found
  · rename_i error wrong
    exact .inr ⟨(Except.ok.inj found).symm, error, wrong⟩
  · exact .inl found

theorem answers_of_judge {child : Addressed Condition} {b : Bool}
    (values : ∀ device b, (child.node.evaluate telemetry moment device).value = .ok b →
      Answers telemetry moment device child.node b)
    (found : (child.judge telemetry moment).value = .ok b) :
    Answers telemetry moment child.target? child.node b := by
  rcases forgive_ok found with value | ⟨rfl, error, wrong⟩
  · exact values _ _ value
  · exact .misconfigured (misconfiguration_of_evaluate wrong)

theorem answers_of_evaluate (c : Condition) : ∀ (device : Option DeviceId) (b : Bool),
    (c.evaluate telemetry moment device).value = .ok b → Answers telemetry moment device c b := by
  induction c using Condition.nodeInduction with
  | threshold c | change c =>
      intro device b value
      cases device with
      | none => contradiction
      | some d =>
          simp only [evaluate, judgeSamples] at value
          split at value
          · rename_i samples found
            cases value
            constructor
            exact found
          · contradiction
  | time c =>
      intro device b value
      simp only [evaluate] at value
      split at value
      · rename_i read
        cases value
        exact .time read
      · contradiction
  | status expected =>
      intro device b value
      cases device with
      | none => contradiction
      | some d =>
          simp only [evaluate, judgeStatus] at value
          split at value
          · rename_i known found
            cases value
            exact .status found
          · contradiction
  | composite connective children ih =>
      intro device b value
      simp only [evaluate] at value
      rcases settle_cases telemetry moment connective children with
        ⟨passed, walk⟩ | ⟨earlier, child, later, split, passed, stops, walk⟩
      · rw [walk] at value
        cases value
        exact .passed fun child inside => answers_of_judge (ih child inside) (passed child inside)
      · rw [walk] at value
        have deciding : b = !connective.neutral :=
          connective.eq_not_neutral fun same => stops (value.trans (congrArg _ same))
        subst split deciding
        exact .decided (fun e inside => answers_of_judge (ih e (by simp [inside])) (passed e inside))
          (answers_of_judge (ih child (by simp)) value)
  | unsupported kind defect =>
      intro device b value
      contradiction

theorem forgive_of_answers {device : Option DeviceId} {c : Condition} {b : Bool}
    (answers : Answers telemetry moment device c b) : ∀ kind : String,
    (forgive kind (c.evaluate telemetry moment device)).value = .ok b := by
  induction answers with
  | misconfigured wrong =>
      intro kind
      rw [evaluate_of_misconfigured wrong]
      rfl
  | threshold found | change found =>
      intro kind
      simp only [evaluate, judgeSamples, found, forgive]
  | time read =>
      intro kind
      simp only [evaluate, read, forgive]
  | status found =>
      intro kind
      simp only [evaluate, judgeStatus, found, forgive]
  | @passed device connective children all ih =>
      intro kind
      have walk : settle telemetry moment connective children = _ :=
        settle_of_neutral fun child inside => ih child inside child.node.kind
      simp only [evaluate, forgive, walk]
  | @decided device connective earlier child later all decides before now =>
      intro kind
      have stops : (child.judge telemetry moment).value ≠ .ok connective.neutral := by
        rw [Addressed.judge, now child.node.kind]
        simp
      have value : (settle telemetry moment connective (earlier ++ child :: later)).value =
          .ok (!connective.neutral) := by
        rw [settle_append_of_neutral _ fun e inside => before e inside _, settle_cons_of_ne later stops]
        exact now _
      simp only [evaluate, forgive, value]

theorem judge_iff_answers {child : Addressed Condition} {b : Bool} :
    (child.judge telemetry moment).value = .ok b ↔ Answers telemetry moment child.target? child.node b :=
  ⟨answers_of_judge (answers_of_evaluate child.node), fun answers => forgive_of_answers answers _⟩

/-- A leaf asks its question, if it has one, and fails with an outage just when that is not answered. -/
theorem leaf_cases {c : Condition} (leaf : c.isLeaf = true) (telemetry : Telemetry) (moment : Moment)
    (device : Option DeviceId) :
    (c.query? moment device = none ∧ (c.evaluate telemetry moment device).queries = [] ∧
      ∀ outage, (c.evaluate telemetry moment device).value ≠ .error (.outage outage)) ∨
    ∃ query, c.query? moment device = some query ∧ (c.evaluate telemetry moment device).queries = [query] ∧
      ((∃ outage, (c.evaluate telemetry moment device).value = .error (.outage outage)) ↔
        telemetry.Fails query) := by
  have run := evaluate_leaf leaf telemetry moment device
  generalize c.evaluate telemetry moment device = traced at run ⊢
  cases run with
  | misconfigured _ silent | settled _ silent => exact .inl ⟨silent, rfl, nofun⟩
  | answered _ asks found => exact .inr ⟨_, asks, rfl, by simp [found]⟩
  | failed asks down => exact .inr ⟨_, asks, rfl, by simp [down]⟩

theorem spots_of_leaf {c : Condition} (leaf : c.isLeaf = true) (device : Option DeviceId) :
    c.spots device = [⟨[], device, c⟩] := by
  cases c with
  | composite connective children => contradiction
  | _ => rfl

theorem mem_childSpots {connective : Connective} {children : List (Addressed Condition)} {spot : Spot} :
    ∀ {before : List (Addressed Condition)}, spot ∈ childSpots connective before children ↔
      ∃ earlier child later inner, children = earlier ++ child :: later ∧
        inner ∈ child.node.spots child.target? ∧ spot = inner.under ⟨connective, before ++ earlier⟩ := by
  induction children with
  | nil => simp [childSpots]
  | cons first rest ih =>
      intro before
      change spot ∈ (first.node.spots first.target?).map _ ++ _ ↔ _
      rw [List.mem_append, List.mem_map, ih]
      constructor
      · rintro (⟨inner, member, rfl⟩ | ⟨earlier, child, later, inner, split, member, rfl⟩)
        · exact ⟨[], first, rest, inner, rfl, member, by rw [List.append_nil]⟩
        · refine ⟨first :: earlier, child, later, inner, by rw [split, List.cons_append], member, ?_⟩
          rw [List.append_assoc]
          rfl
      · rintro ⟨earlier, child, later, inner, split, member, rfl⟩
        cases earlier with
        | nil =>
            cases split
            exact .inl ⟨inner, member, by rw [List.append_nil]⟩
        | cons e earlier =>
            cases split
            refine .inr ⟨earlier, child, later, inner, rfl, member, ?_⟩
            rw [List.append_assoc]
            rfl

theorem mem_spots_composite {connective : Connective} {children : List (Addressed Condition)}
    {device : Option DeviceId} {spot : Spot} : spot ∈ (composite connective children).spots device ↔
      ∃ earlier child later inner, children = earlier ++ child :: later ∧
        inner ∈ child.node.spots child.target? ∧ spot = inner.under ⟨connective, earlier⟩ :=
  mem_childSpots

theorem Spot.isReached_under {level : Level} {spot : Spot} :
    (spot.under level).IsReached telemetry moment ↔
      (∀ e ∈ level.earlier, Answers telemetry moment (Addressed.target? e) e.node level.connective.neutral) ∧
        spot.IsReached telemetry moment := by
  simp only [IsReached, under, List.forall_mem_cons]

theorem definite_of_judge {child : Addressed Condition} {b : Bool}
    (found : (child.judge telemetry moment).value = .ok b) (outage : Outage) :
    (child.node.evaluate telemetry moment child.target?).value ≠ .error (.outage outage) := by
  intro failed
  rcases forgive_ok found with value | ⟨_, error, wrong⟩
  · rw [value] at failed
    cases failed
  · rw [wrong] at failed
    cases failed

theorem judge_of_outage {child : Addressed Condition} {outage : Outage}
    (failed : (child.node.evaluate telemetry moment child.target?).value = .error (.outage outage)) :
    (child.judge telemetry moment).value = .error (.outage outage) := by
  rw [Addressed.judge, forgive_of_outage failed, failed]

theorem settle_queries {connective : Connective} {children : List (Addressed Condition)} {value : Except Fault Bool}
    {walked : List (Addressed Condition)}
    (walk : settle telemetry moment connective children =
      ⟨value, walked.flatMap fun child => (child.judge telemetry moment).events⟩) :
    (settle telemetry moment connective children).queries =
      walked.flatMap fun child => (child.node.evaluate telemetry moment child.target?).queries := by
  rw [walk, Traced.queries, List.filterMap_flatMap]
  exact congrArg (walked.flatMap ·) (funext judge_queries)

/-- A composite asks the questions of its children up to the one that it ends with. -/
theorem exists_walked (telemetry : Telemetry) (moment : Moment) (device : Option DeviceId) (connective : Connective)
    (children : List (Addressed Condition)) :
    ∃ walked, walked <+: children ∧ ((composite connective children).evaluate telemetry moment device).queries =
      walked.flatMap fun child => (child.node.evaluate telemetry moment child.target?).queries := by
  rcases settle_cases telemetry moment connective children with
    ⟨_, walk⟩ | ⟨earlier, child, later, split, _, _, walk⟩
  · exact ⟨children, List.prefix_rfl, settle_queries walk⟩
  · exact ⟨earlier ++ [child], ⟨later, by rw [split, List.append_assoc, List.singleton_append]⟩, settle_queries walk⟩

/-- Each question of an evaluation is that of a leaf. -/
theorem exists_spot_of_asked (c : Condition) : ∀ (device : Option DeviceId) (query : Query),
    query ∈ (c.evaluate telemetry moment device).queries →
      ∃ spot ∈ c.spots device, spot.query? moment = some query := by
  induction c using Condition.leafInduction with
  | leaf c leaf =>
      intro device query asked
      rcases leaf_cases leaf telemetry moment device with ⟨_, silent, _⟩ | ⟨own, same, questions, _⟩
      · rw [silent] at asked
        contradiction
      · rw [questions, List.mem_singleton] at asked
        subst asked
        exact ⟨⟨[], device, c⟩, by rw [spots_of_leaf leaf]; exact List.mem_singleton_self _, same⟩
  | composite connective children ih =>
      intro device query asked
      obtain ⟨walked, ⟨rest, split⟩, questions⟩ := exists_walked telemetry moment device connective children
      rw [questions] at asked
      obtain ⟨child, inside, asked⟩ := List.mem_flatMap.mp asked
      obtain ⟨before, after, place⟩ := List.append_of_mem inside
      have split : children = before ++ child :: (after ++ rest) := by
        rw [← split, place, List.append_assoc, List.cons_append]
      obtain ⟨spot, member, own⟩ := ih child (by simp [split]) child.target? query asked
      exact ⟨_, mem_spots_composite.mpr ⟨before, child, _, spot, split, member, rfl⟩, own⟩

/-- An evaluation that comes to a value has asked nothing in vain. -/
theorem answered_of_definite (c : Condition) : ∀ device : Option DeviceId,
    (∀ outage, (c.evaluate telemetry moment device).value ≠ .error (.outage outage)) →
      ∀ query ∈ (c.evaluate telemetry moment device).queries, ¬ telemetry.Fails query := by
  induction c using Condition.leafInduction with
  | leaf c leaf =>
      intro device definite query asked
      rcases leaf_cases leaf telemetry moment device with ⟨_, silent, _⟩ | ⟨own, _, questions, fails⟩
      · rw [silent] at asked
        contradiction
      · rw [questions, List.mem_singleton] at asked
        subst asked
        intro failed
        obtain ⟨outage, value⟩ := fails.mpr failed
        exact definite outage value
  | composite connective children ih =>
      intro device definite query asked
      -- Whether the walk passes every child or ends at one, none of those that it comes to fails.
      have walked : ∃ walked : List (Addressed Condition), (∀ child ∈ walked, child ∈ children ∧
          ∀ outage, (child.node.evaluate telemetry moment child.target?).value ≠ .error (.outage outage)) ∧
          ((composite connective children).evaluate telemetry moment device).queries =
            walked.flatMap fun child => (child.node.evaluate telemetry moment child.target?).queries := by
        rcases settle_cases telemetry moment connective children with
          ⟨passed, walk⟩ | ⟨earlier, child, later, split, passed, stops, walk⟩
        · exact ⟨children, fun child inside => ⟨inside, definite_of_judge (passed child inside)⟩,
            settle_queries walk⟩
        · refine ⟨earlier ++ [child], ?_, settle_queries walk⟩
          intro e inside
          rcases List.mem_append.mp inside with before | last
          · exact ⟨by simp [split, before], definite_of_judge (passed e before)⟩
          · cases List.mem_singleton.mp last
            refine ⟨by simp [split], fun outage failed => definite outage ?_⟩
            simp only [evaluate, walk]
            exact judge_of_outage failed
      obtain ⟨walked, each, questions⟩ := walked
      rw [questions] at asked
      obtain ⟨child, inside, asked⟩ := List.mem_flatMap.mp asked
      exact ih child (each child inside).1 child.target? (each child inside).2 query asked

/-- An evaluation that fails with an outage has asked its last question at a leaf that it has reached. -/
theorem failure_of_outage (c : Condition) : ∀ (device : Option DeviceId) (outage : Outage),
    (c.evaluate telemetry moment device).value = .error (.outage outage) →
      ∃ earlier query spot, (c.evaluate telemetry moment device).queries = earlier ++ [query] ∧
        telemetry.Fails query ∧ (∀ e ∈ earlier, ¬ telemetry.Fails e) ∧
        spot ∈ c.spots device ∧ spot.IsReached telemetry moment ∧ spot.query? moment = some query := by
  induction c using Condition.leafInduction with
  | leaf c leaf =>
      intro device outage failed
      rcases leaf_cases leaf telemetry moment device with ⟨_, _, definite⟩ | ⟨query, own, questions, fails⟩
      · exact absurd failed (definite outage)
      · exact ⟨[], query, ⟨[], device, c⟩, questions, fails.mp ⟨outage, failed⟩, by simp,
          by rw [spots_of_leaf leaf]; exact List.mem_singleton_self _, by simp [Spot.IsReached], own⟩
  | composite connective children ih =>
      intro device outage failed
      simp only [evaluate] at failed
      rcases settle_cases telemetry moment connective children with
        ⟨passed, walk⟩ | ⟨before, child, later, split, passed, stops, walk⟩
      · rw [walk] at failed
        contradiction
      · rw [walk] at failed
        obtain ⟨earlier, query, spot, questions, fails, answered, member, reached, own⟩ :=
          ih child (by simp [split]) child.target? outage (judge_error failed).1
        refine ⟨(before.flatMap fun e => (e.node.evaluate telemetry moment e.target?).queries) ++ earlier, query,
          spot.under ⟨connective, before⟩, ?_, fails, ?_, ?_, ?_, own⟩
        · have all : ((composite connective children).evaluate telemetry moment device).queries =
              (before ++ [child]).flatMap fun e => (e.node.evaluate telemetry moment e.target?).queries :=
            settle_queries walk
          rw [all, List.flatMap_append, List.flatMap_singleton, questions, List.append_assoc]
        · intro e inside
          rcases List.mem_append.mp inside with walked | inner
          · obtain ⟨sibling, sibling_mem, asked⟩ := List.mem_flatMap.mp walked
            exact answered_of_definite sibling.node sibling.target? (definite_of_judge (passed sibling sibling_mem))
              e asked
          · exact answered e inner
        · exact mem_spots_composite.mpr ⟨before, child, later, spot, split, member, rfl⟩
        · exact Spot.isReached_under.mpr ⟨fun e inside => judge_iff_answers.mp (passed e inside), reached⟩

theorem outage_of_failure (c : Condition) : ∀ (device : Option DeviceId) (spot : Spot) (query : Query),
    spot ∈ c.spots device → spot.IsReached telemetry moment → spot.query? moment = some query →
      telemetry.Fails query → ∃ outage, (c.evaluate telemetry moment device).value = .error (.outage outage) := by
  induction c using Condition.leafInduction with
  | leaf c leaf =>
      intro device spot query member _ own fails
      rw [spots_of_leaf leaf, List.mem_singleton] at member
      subst member
      rcases leaf_cases leaf telemetry moment device with ⟨none, _, _⟩ | ⟨asked, same, _, fails_iff⟩
      · exact absurd (none.symm.trans own) (Option.some_ne_none query).symm
      · cases Option.some.inj (same.symm.trans own)
        exact fails_iff.mpr fails
  | composite connective children ih =>
      intro device spot query member reached own fails
      obtain ⟨earlier, child, later, inner, split, inside, rfl⟩ := mem_spots_composite.mp member
      obtain ⟨passed, reached⟩ := Spot.isReached_under.mp reached
      obtain ⟨outage, failed⟩ := ih child (by simp [split]) child.target? inner query inside reached own fails
      have judged := judge_of_outage failed
      refine ⟨outage, ?_⟩
      simp only [evaluate]
      rw [split, settle_append_of_neutral _ fun e inside => judge_iff_answers.mpr (passed e inside),
        settle_cons_of_ne later (by rw [judged]; simp), judged]

theorem settle_of_same_answers {other : Telemetry} {connective : Connective} {children : List (Addressed Condition)}
    (each : ∀ child ∈ children,
      (∀ query ∈ (child.node.evaluate telemetry moment child.target?).queries, telemetry.SameAnswer other query) →
        child.node.evaluate other moment child.target? = child.node.evaluate telemetry moment child.target?)
    (same : ∀ query ∈ (settle telemetry moment connective children).queries, telemetry.SameAnswer other query) :
    settle other moment connective children = settle telemetry moment connective children := by
  induction children with
  | nil => rfl
  | cons first rest ih =>
      obtain ⟨here, below⟩ := List.forall_mem_cons.mp each
      have judged (asked : ∀ query ∈ (first.judge telemetry moment).queries, telemetry.SameAnswer other query) :
          first.judge other moment = first.judge telemetry moment := by
        rw [judge_queries] at asked
        rw [Addressed.judge, Addressed.judge, here asked]
      by_cases passes : (first.judge telemetry moment).value = .ok connective.neutral
      · rw [settle_cons_of_neutral rest passes] at same ⊢
        simp only [Traced.queries, List.filterMap_append, List.mem_append] at same
        have walked := ih below fun query asked => same query (.inr asked)
        have equal := judged fun query asked => same query (.inl asked)
        rw [settle_cons_of_neutral rest (equal ▸ passes), equal, walked]
      · rw [settle_cons_of_ne rest passes] at same ⊢
        have equal := judged same
        rw [settle_cons_of_ne rest (equal ▸ passes), equal]

/-- An evaluation depends on the answers to its own questions alone. -/
theorem evaluate_of_same_answers {other : Telemetry} (c : Condition) : ∀ device : Option DeviceId,
    (∀ query ∈ (c.evaluate telemetry moment device).queries, telemetry.SameAnswer other query) →
      c.evaluate other moment device = c.evaluate telemetry moment device := by
  induction c using Condition.nodeInduction with
  | threshold c | change c =>
      intro device same
      cases device with
      | none => rfl
      | some d =>
          simp only [evaluate] at same ⊢
          have answer : telemetry.SameAnswer other _ := same _ (by
            unfold judgeSamples
            split <;> exact List.mem_singleton_self _)
          simp only [Telemetry.SameAnswer] at answer
          simp only [judgeSamples, answer]
  | time c => exact fun _ _ => rfl
  | status expected =>
      intro device same
      cases device with
      | none => rfl
      | some d =>
          simp only [evaluate] at same ⊢
          have answer : telemetry.SameAnswer other (.status d) := same _ (by
            unfold judgeStatus
            split <;> exact List.mem_singleton_self _)
          simp only [Telemetry.SameAnswer] at answer
          simp only [judgeStatus, answer]
  | composite connective children ih =>
      intro device same
      exact settle_of_same_answers (fun child inside => ih child inside child.target?) same
  | unsupported kind defect => exact fun _ _ => rfl

/-- A definite outcome and the questions that led to it depend on no failing device: a store that answers anything
about those gives the same. Otherwise evaluation has come to a leaf about a failing device, and ends with its
question. -/
theorem definite_outcome_ignores_failing {failing : DeviceId → Prop} (fails : telemetry.FailsExactlyOn failing)
    (moment : Moment) (device : Option DeviceId) (c : Condition) :
    ((∃ b, (c.evaluate telemetry moment device).value = .ok b) ∨
        (∃ error, (c.evaluate telemetry moment device).value = .error (.configuration error)) →
      ∀ other, telemetry.AgreesOutside other failing →
        c.evaluate other moment device = c.evaluate telemetry moment device) ∧
    ((∃ outage, (c.evaluate telemetry moment device).value = .error (.outage outage)) ↔
      ∃ spot ∈ c.spots device, spot.IsReached telemetry moment ∧
        ∃ query, spot.query? moment = some query ∧ failing query.device) ∧
    ∀ outage, (c.evaluate telemetry moment device).value = .error (.outage outage) →
      ∃ earlier query spot, (c.evaluate telemetry moment device).queries = earlier ++ [query] ∧
        failing query.device ∧ (∀ e ∈ earlier, ¬ failing e.device) ∧
        spot ∈ c.spots device ∧ spot.IsReached telemetry moment ∧ spot.query? moment = some query := by
  refine ⟨?_, ⟨?_, ?_⟩, ?_⟩
  · intro definite other agrees
    have answered : ∀ query ∈ (c.evaluate telemetry moment device).queries, ¬ telemetry.Fails query :=
      answered_of_definite c device fun outage failed => by
        rcases definite with ⟨b, value⟩ | ⟨error, value⟩ <;> rw [value] at failed <;> cases failed
    exact evaluate_of_same_answers c device fun query asked =>
      agrees query fun failing => answered query asked ((fails query).mpr failing)
  · rintro ⟨outage, failed⟩
    obtain ⟨_, query, spot, _, down, _, member, reached, own⟩ := failure_of_outage c device outage failed
    exact ⟨spot, member, reached, query, own, (fails query).mp down⟩
  · rintro ⟨spot, member, reached, query, own, down⟩
    exact outage_of_failure c device spot query member reached own ((fails query).mpr down)
  · intro outage failed
    obtain ⟨earlier, query, spot, questions, down, answered, rest⟩ := failure_of_outage c device outage failed
    exact ⟨earlier, query, spot, questions, (fails query).mp down,
      fun e inside failing => answered e inside ((fails e).mpr failing), rest⟩

/-- With an attic that fails, a lit hall is enough for one of the two, and not for both. -/
theorem definite_outcome_ignores_attic :
    let log := TelemetryLog.empty.setStatus ⟨"hall"⟩ "on"
    let world := { World.memory .epoch with telemetry := .memory log, failing := [⟨"attic"⟩] }
    let moment : Moment := ⟨.epoch, ⟨0⟩, none⟩
    let lit (connective : Connective) :=
      composite connective [⟨some ⟨"hall"⟩, status "on"⟩, ⟨some ⟨"attic"⟩, status "on"⟩]
    world.answers.FailsExactlyOn (· ∈ world.failing) ∧
    ((lit .or).evaluate world.answers moment none).value = .ok true ∧
    (∀ other, world.answers.AgreesOutside other (· ∈ world.failing) →
      (lit .or).evaluate other moment none = (lit .or).evaluate world.answers moment none) ∧
    ((lit .and).evaluate world.answers moment none).queries = [.status ⟨"hall"⟩, .status ⟨"attic"⟩] ∧
    ∃ spot ∈ (lit .and).spots none, spot.IsReached world.answers moment ∧
      spot.query? moment = some (.status ⟨"attic"⟩) := by
  intro log world moment lit
  have fails : world.answers.FailsExactlyOn (· ∈ world.failing) := fun query =>
    (world.answers_fails_iff query).trans (or_iff_left (log.telemetry_reliable query))
  have value : ((lit .or).evaluate world.answers moment none).value = .ok true := rfl
  refine ⟨fails, value, ?_, by decide, ?_⟩
  · exact (definite_outcome_ignores_failing fails moment none (lit .or)).1 (.inl ⟨true, value⟩)
  · obtain ⟨earlier, query, spot, questions, _, _, member, reached, own⟩ :=
      (definite_outcome_ignores_failing fails moment none (lit .and)).2.2 _ rfl
    have last : query = .status ⟨"attic"⟩ := by
      have same := congrArg List.getLast? questions
      rw [List.getLast?_concat] at same
      exact (Option.some.inj same).symm
    exact ⟨spot, member, reached, last ▸ own⟩

end Condition

end DeviceRules
