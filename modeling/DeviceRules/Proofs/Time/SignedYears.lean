import DeviceRules.Proofs.Time.Written

/-! Years of more than four digits, and years before the first, are written with a sign. No reader of a whole text takes
both such a year and the zone behind the time: the one that reads a zone wants four digits first, and the others never
read a `Z`, so that it is left over at the end of what they read. -/
namespace DeviceRules

namespace Reading

/-- What a reader leaves of a text when it has taken no `Z` off the front. -/
def LeavesZone (cs rest : List Char) : Prop := ∃ taken, cs = taken ++ rest ∧ 'Z' ∉ taken

section LeavesZone

variable {cs middle rest : List Char}

theorem LeavesZone.refl (cs : List Char) : LeavesZone cs cs := ⟨[], rfl, List.not_mem_nil⟩

theorem LeavesZone.trans (first : LeavesZone cs middle) (second : LeavesZone middle rest) : LeavesZone cs rest := by
  obtain ⟨taken, rfl, free⟩ := first
  obtain ⟨more, rfl, others⟩ := second
  exact ⟨taken ++ more, (List.append_assoc ..).symm, by simp [free, others]⟩

/-- A `Z` at the end of a text is still there in what is left of it. -/
theorem LeavesZone.getLast? (leaves : LeavesZone cs rest) (zone : cs.getLast? = some 'Z') :
    rest.getLast? = some 'Z' := by
  obtain ⟨taken, rfl, free⟩ := leaves
  rcases rest.eq_nil_or_concat with rfl | ⟨start, last, rfl⟩
  · rw [List.append_nil] at zone
    exact absurd (List.mem_of_getLast? zone) free
  · simpa using zone

theorem zone_notMem_takeWhile {p : Char → Bool} (other : p 'Z' = false) (cs : List Char) : 'Z' ∉ cs.takeWhile p := by
  intro member
  have accepted := List.all_eq_true.mp List.all_takeWhile _ member
  rw [other] at accepted
  contradiction

theorem leavesZone_dropBlanks (cs : List Char) : LeavesZone cs (Text.dropBlanks cs) :=
  ⟨cs.takeWhile Text.isBlank, List.takeWhile_append_dropWhile.symm, zone_notMem_takeWhile (by decide) cs⟩

theorem leavesZone_literal {c : Char} (other : c ≠ 'Z') (read : literal? c cs = some rest) : LeavesZone cs rest := by
  cases cs with
  | nil => contradiction
  | cons d cs =>
      obtain ⟨same, rfl⟩ : d = c ∧ cs = rest := by simpa [literal?] using read
      exact ⟨[d], rfl, by simp [same, other.symm]⟩

theorem leavesZone_digits {most n : Nat} (read : digits? most cs = some (n, rest)) : LeavesZone cs rest := by
  simp only [digits?] at read
  split at read
  · contradiction
  · cases read
    refine ⟨(cs.take most).takeWhile Char.isDigit, ?_, zone_notMem_takeWhile (by decide) _⟩
    have front : (cs.take most).takeWhile Char.isDigit <+: cs :=
      (List.takeWhile_prefix _).trans (List.take_prefix _ _)
    exact (List.prefix_iff_eq_append.mp front).symm

theorem leavesZone_fraction {nano : Nat} (read : fraction? cs = some (nano, rest)) : LeavesZone cs rest := by
  unfold fraction? at read
  split at read
  · rename_i cs
    dsimp only at read
    split at read
    · contradiction
    · cases read
      refine ⟨'.' :: cs.takeWhile Char.isDigit, ?_, by simp [zone_notMem_takeWhile]⟩
      exact congrArg ('.' :: ·) (List.prefix_iff_eq_append.mp (List.takeWhile_prefix _)).symm
  · cases read
    exact .refl _

theorem leavesZone_pair {n : Nat} (read : pair? cs = some (n, rest)) : LeavesZone cs rest :=
  (leavesZone_dropBlanks cs).trans (leavesZone_digits read)

theorem leavesZone_year {year : Int} (read : year? cs = some (year, rest)) : LeavesZone cs rest := by
  have unsigned {most : Nat} {f : Nat × List Char → Int × List Char} {cs : List Char} (same : ∀ x, (f x).2 = x.2)
      (found : (digits? most cs).map f = some (year, rest)) : LeavesZone cs rest := by
    obtain ⟨⟨n, left⟩, digits, shown⟩ := Option.map_eq_some_iff.mp found
    obtain rfl : left = rest := (same _).symm.trans (congrArg Prod.snd shown)
    exact leavesZone_digits digits
  refine (leavesZone_dropBlanks cs).trans ?_
  unfold year? at read
  split at read
  case h_1 signed | h_2 signed =>
    rw [signed]
    exact .trans ⟨[_], rfl, by simp⟩ (unsigned (fun _ => rfl) read)
  case h_3 => exact unsigned (fun _ => rfl) read

theorem leavesZone_date {gap : List Char → List Char} (gaps : ∀ cs, LeavesZone cs (gap cs)) {date : Int × Nat × Nat}
    (read : date? gap cs = some (date, rest)) : LeavesZone cs rest := by
  simp only [date?, Option.bind_eq_bind, Option.bind_eq_some_iff, Prod.exists] at read
  obtain ⟨year, afterYear, readYear, behindFirst, first, month, afterMonth, readMonth, behindSecond, second, day,
    afterDay, readDay, done⟩ := read
  cases done
  exact (leavesZone_year readYear).trans <| (gaps _).trans <| (leavesZone_literal (by decide) first).trans <|
    (leavesZone_pair readMonth).trans <| (gaps _).trans <| (leavesZone_literal (by decide) second).trans <|
    leavesZone_pair readDay

theorem leavesZone_time {gap : List Char → List Char} (gaps : ∀ cs, LeavesZone cs (gap cs))
    {time : Nat × Nat × Nat × Nat} (read : time? gap cs = some (time, rest)) : LeavesZone cs rest := by
  simp only [time?, Option.bind_eq_bind, Option.bind_eq_some_iff, Prod.exists] at read
  obtain ⟨hour, afterHour, readHour, behindFirst, first, minute, afterMinute, readMinute, behindSecond, second,
    seconds, afterSecond, readSecond, nano, afterNano, readNano, done⟩ := read
  cases done
  exact (leavesZone_pair readHour).trans <| (gaps _).trans <| (leavesZone_literal (by decide) first).trans <|
    (leavesZone_pair readMinute).trans <| (gaps _).trans <| (leavesZone_literal (by decide) second).trans <|
    (leavesZone_pair readSecond).trans <| leavesZone_fraction readNano

end LeavesZone

variable {cs : List Char}

theorem separated?_of_zone (zone : cs.getLast? = some 'Z') : separated? cs = none := by
  rw [Option.eq_none_iff_forall_ne_some]
  intro t read
  simp only [separated?, Option.bind_eq_bind, Option.bind_eq_some_iff, Prod.exists] at read
  obtain ⟨year, month, day, afterDate, readDate, behind, mark, hour, minute, second, nano, afterTime, readTime,
    done⟩ := read
  have left : LeavesZone cs (Text.dropBlanks afterTime) :=
    (leavesZone_date leavesZone_dropBlanks readDate).trans <| (leavesZone_dropBlanks _).trans <|
      (leavesZone_literal (by decide) mark).trans <| (leavesZone_time leavesZone_dropBlanks readTime).trans <|
      leavesZone_dropBlanks _
  have last := left.getLast? zone
  split at done
  · rename_i none
    rw [List.isEmpty_iff.mp none] at last
    contradiction
  · contradiction

theorem spaced?_of_zone (zone : cs.getLast? = some 'Z') : spaced? cs = none := by
  rw [Option.eq_none_iff_forall_ne_some]
  intro t read
  simp only [spaced?, Option.bind_eq_bind, Option.bind_eq_some_iff, Prod.exists] at read
  obtain ⟨year, month, day, afterDate, readDate, hour, minute, second, nano, afterTime, readTime, done⟩ := read
  have left : LeavesZone cs afterTime :=
    (leavesZone_date LeavesZone.refl readDate).trans (leavesZone_time LeavesZone.refl readTime)
  have last := left.getLast? zone
  split at done
  · rename_i none
    rw [List.isEmpty_iff.mp none] at last
    contradiction
  · contradiction

theorem strict?_of_sign {c : Char} {rest : List Char} (sign : c.isDigit = false) : strict? (c :: rest) = none := by
  have none : exactly? 4 (c :: rest) = none := by simp [exactly?, sign]
  rw [strict?, none]
  rfl

end Reading

namespace Instant

/-- Outside the years 0 to 9999 the text begins with a sign. -/
theorem secondText_sign (t : Instant) (outside : ¬(0 ≤ t.year ∧ t.year ≤ 9999)) :
    ∃ sign rest, t.secondText = sign :: rest ∧ sign.isDigit = false ∧ Text.isBlank sign = false := by
  have year : yearText t.year = (if t.year < 0 then '-' else '+') :: padded 4 t.year.natAbs := if_neg outside
  have text : ∃ rest, t.secondText = yearText t.year ++ rest := by
    simp only [secondText, List.append_assoc]
    exact ⟨_, rfl⟩
  obtain ⟨rest, text⟩ := text
  rw [text, year]
  refine ⟨_, _, rfl, ?_⟩
  split <;> decide

/-- The text of an instant outside the years 0 to 9999 is not read, whatever fraction stands behind the second. -/
theorem ofText?_of_outside (t : Instant) (outside : ¬(0 ≤ t.year ∧ t.year ≤ 9999)) (fraction : List Char) :
    ofText? (String.ofList (t.secondText ++ fraction ++ ['Z'])) = none := by
  obtain ⟨sign, rest, text, noDigit, visible⟩ := t.secondText_sign outside
  have zone : (t.secondText ++ fraction ++ ['Z']).getLast? = some 'Z' := List.getLast?_concat
  have trimmed : Text.trim (t.secondText ++ fraction ++ ['Z']) = t.secondText ++ fraction ++ ['Z'] := by
    apply Text.trim_of_ends
    · intro c first
      simp only [text, List.cons_append, List.head?_cons, Option.some.injEq] at first
      exact first ▸ visible
    · intro c last
      rw [zone, Option.some.injEq] at last
      exact last ▸ rfl
  have strict : Reading.strict? (t.secondText ++ fraction ++ ['Z']) = none := by
    rw [text]
    exact Reading.strict?_of_sign noDigit
  rw [ofText?, String.toList_ofList, trimmed]
  simp only [strict, Reading.separated?_of_zone zone, Reading.spaced?_of_zone zone]
  rfl

end Instant

end DeviceRules
