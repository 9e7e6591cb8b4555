import Mathlib.Data.Nat.Init
import Mathlib.Tactic.SplitIfs
import RoomTransfer.Room

/-! Shifts by whole years. A date keeps its month and its day wherever it lands, unless it is a leap
day and the year has none. Every later year lies wholly behind the earlier one, so a shift leads to
a later moment whatever the offset is. -/
namespace RoomTransfer

/-- The leap day is the only day that some years do not have. -/
def Date.IsLeapDay (d : Date) : Prop := d.month = 2 ∧ d.day = 29

instance (d : Date) : Decidable d.IsLeapDay := inferInstanceAs (Decidable (_ ∧ _))

theorem le_daysInMonth {year other month day : Nat} (fits : day ≤ daysInMonth year month)
    (common : ¬ (month = 2 ∧ day = 29)) : day ≤ daysInMonth other month := by
  unfold daysInMonth at *
  by_cases february : month = 2
  · have short : day ≠ 29 := fun last => common ⟨february,last⟩
    simp only [february,if_true] at *
    split at fits <;> split <;> omega
  · simp only [february,if_false] at *
    exact fits

namespace Date

/-- The day of `d` in another year. -/
def dayIn (d : Date) (year : Nat) : Nat :=
  if d.IsLeapDay ∧ ¬ isLeapYear year then 28 else d.day

theorem dayIn_mem (d : Date) (year : Nat) :
    1 ≤ d.dayIn year ∧ d.dayIn year ≤ daysInMonth year d.month := by
  obtain ⟨lower,upper⟩ := d.day_mem
  unfold dayIn
  by_cases leap : d.IsLeapDay
  · obtain ⟨month,day⟩ := id leap
    by_cases has : isLeapYear year = true <;> simp [leap,has,month,day,daysInMonth]
  · simp only [leap,false_and,if_false]
    exact ⟨lower,le_daysInMonth upper leap⟩

/-- The same date of another year. -/
def inYear (d : Date) (year : Nat) (within : 1 ≤ year ∧ year ≤ 9999) : Date :=
  ⟨year,d.month,d.dayIn year,within,d.month_mem,d.dayIn_mem year⟩

theorem of_numbers (d : Date) : of d.year d.month d.day = .ok d := by
  have year : (1 : Int) ≤ d.year ∧ (d.year : Int) ≤ 9999 := by
    have := d.year_mem
    omega
  unfold of
  rw [dif_pos year,dif_pos d.month_mem,dif_pos (by simpa using d.day_mem)]
  rfl

theorem addYears_eq (d : Date) {years : Int} {year : Nat} (within : 1 ≤ year ∧ year ≤ 9999)
    (target : (d.year : Int) + years = year) : d.addYears years = .ok (d.inYear year within) := by
  have landed := of_numbers (d.inYear year within)
  -- A year lacks a day only if that is the leap day, so the second attempt is made for nothing else.
  by_cases moved : d.IsLeapDay ∧ ¬ isLeapYear year
  · have day : (d.inYear year within).day = 28 := if_pos moved
    have none : of year d.month d.day = .error .day := by
      obtain ⟨⟨month,day⟩,common⟩ := moved
      have year : (1 : Int) ≤ year ∧ (year : Int) ≤ 9999 := by omega
      unfold of
      rw [dif_pos year,dif_pos d.month_mem,dif_neg]
      simp [month,day,daysInMonth,common]
    rw [day] at landed
    unfold addYears
    rw [target,none]
    exact landed
  · have day : (d.inYear year within).day = d.day := if_neg moved
    rw [day] at landed
    unfold addYears
    rw [target,show of year d.month d.day = _ from landed]

/-- It matters only for the leap day which years a date is carried through. -/
theorem inYear_inYear {d : Date} (common : ¬ d.IsLeapDay) {between year : Nat}
    (first : 1 ≤ between ∧ between ≤ 9999) (within : 1 ≤ year ∧ year ≤ 9999) :
    (d.inYear between first).inYear year within = d.inYear year within := by
  have day : d.dayIn between = d.day := if_neg fun moved => common moved.1
  have still : ¬ (d.inYear between first).IsLeapDay := by
    intro leap
    exact common ⟨leap.1,day ▸ leap.2⟩
  have kept : (d.inYear between first).dayIn year = d.dayIn year := by
    unfold dayIn
    rw [if_neg fun moved => still moved.1,if_neg fun moved => common moved.1]
    exact day
  simp only [inYear] at kept ⊢
  simp only [kept]

section DayNumbers

theorem daysBeforeYear_succ {year : Nat} (positive : 1 ≤ year) :
    daysBeforeYear (year + 1) = daysBeforeYear year + daysInYear year := by
  obtain ⟨n,rfl⟩ : ∃ n, year = n + 1 := ⟨year - 1,by omega⟩
  have rarer : n / 100 ≤ n / 4 := Nat.div_le_div_left (by decide) (by decide)
  -- Which of the three quotients grow is what makes the year a leap year.
  simp only [daysBeforeYear,daysInYear,isLeapYear,Nat.add_sub_cancel,Nat.succ_div,
    Nat.dvd_iff_mod_eq_zero,Bool.and_eq_true,Bool.or_eq_true,decide_eq_true_eq]
  split_ifs <;> omega

/-- A year is over before any later one begins. -/
theorem daysBeforeYear_add_le {year later : Nat} (positive : 1 ≤ year) (before : year < later) :
    daysBeforeYear year + daysInYear year ≤ daysBeforeYear later := by
  induction later,before using Nat.le_induction with
  | base => exact Nat.le_of_eq (daysBeforeYear_succ positive).symm
  | succ later before ih =>
    rw [daysBeforeYear_succ (by omega)]
    omega

theorem daysBeforeMonth_mono (year : Nat) {months more : Nat} (fewer : months ≤ more) :
    daysBeforeMonth year months ≤ daysBeforeMonth year more := by
  induction more,fewer using Nat.le_induction with
  | base => exact Nat.le_refl _
  | succ more _ ih => exact Nat.le_trans ih (Nat.le_add_right _ _)

theorem daysBeforeMonth_twelve (year : Nat) : daysBeforeMonth year 12 = daysInYear year := by
  unfold daysInYear
  by_cases leap : isLeapYear year = true <;> simp [daysBeforeMonth,daysInMonth,leap]

theorem dayOfYear_le (d : Date) : d.dayOfYear ≤ daysInYear d.year := by
  obtain ⟨month,last⟩ := d.month_mem
  have through := daysBeforeMonth_mono d.year last
  rw [daysBeforeMonth_twelve] at through
  have split : daysBeforeMonth d.year d.month =
      daysBeforeMonth d.year (d.month - 1) + daysInMonth d.year d.month := by
    obtain ⟨n,same⟩ : ∃ n, d.month = n + 1 := ⟨d.month - 1,by omega⟩
    rw [same]
    rfl
  have := d.day_mem.2
  unfold dayOfYear
  omega

theorem dayNumber_lt {d e : Date} (before : d.year < e.year) : d.dayNumber < e.dayNumber := by
  have year := daysBeforeYear_add_le d.year_mem.1 before
  have day := d.dayOfYear_le
  have := d.day_mem.1
  unfold dayOfYear at day
  unfold dayNumber
  omega

end DayNumbers

end Date

namespace Timestamp

/-- A moment `years` years after another, at the same time of day and with the same offset. -/
structure Anniversary (t : Timestamp) (years : Nat) (u : Timestamp) : Prop where
  year : u.date.year = t.date.year + years
  month : u.date.month = t.date.month
  day : u.date.day =
    if t.date.IsLeapDay ∧ ¬ isLeapYear (t.date.year + years) then 28 else t.date.day
  micros : u.micros = t.micros
  offset : u.offset = t.offset

theorem Anniversary.instant_lt {t u : Timestamp} {years : Nat} (later : Anniversary t years u)
    (positive : 0 < years) : t.instant < u.instant := by
  have days := Date.dayNumber_lt (d := t.date) (e := u.date) (by rw [later.year]; omega)
  unfold instant wall
  rw [later.micros,later.offset]
  omega

end Timestamp

section Shift

variable {t : Timestamp}

theorem shiftYears_inYear {years : Int} {year : Nat} (within : 1 ≤ year ∧ year ≤ 9999)
    (target : (t.date.year : Int) + years = year) :
    shiftYears (.stamp t) years = .ok (.stamp { t with date := t.date.inYear year within }) := by
  have near : ¬ ((year : Int) < -0x80000000 ∨ 0x80000000 ≤ (year : Int)) := by omega
  simp only [shiftYears,target,near,if_false,Timestamp.addYears,t.date.addYears_eq within target,
    Except.map]

theorem shiftYears_anniversary {years : Nat} (within : t.date.year + years ≤ 9999) :
    ∃ u, shiftYears (.stamp t) years = .ok (.stamp u) ∧ Timestamp.Anniversary t years u := by
  have := t.date.year_mem
  exact ⟨_,shiftYears_inYear ⟨by omega,within⟩ (by push_cast; rfl),rfl,rfl,rfl,rfl,rfl⟩

/-- Two shifts make one, except from a leap day. -/
theorem shiftYears_shiftYears {years more : Nat} (within : t.date.year + years + more ≤ 9999)
    (common : ¬ t.date.IsLeapDay) :
    (shiftYears (.stamp t) years >>= fun u => shiftYears u more) =
      shiftYears (.stamp t) (years + more : Nat) := by
  have start := t.date.year_mem
  have first : 1 ≤ t.date.year + years ∧ t.date.year + years ≤ 9999 := by omega
  have last : 1 ≤ t.date.year + years + more ∧ t.date.year + years + more ≤ 9999 := by omega
  rw [shiftYears_inYear first (by push_cast; rfl)]
  simp only [bind,Except.bind]
  rw [shiftYears_inYear last (by simp [Date.inYear]),shiftYears_inYear last (by push_cast; omega),
    Date.inYear_inYear common]

end Shift

/-- Moments that both tell their offset, or both do not, are in the order of their instants. -/
theorem Value.less_stamps {t u : Timestamp} (same : t.offset.isSome = u.offset.isSome) :
    (Value.stamp t).less (.stamp u) = .ok (decide (t.instant < u.instant)) := by
  have comparable : t.compare? u = some (compare t.instant u.instant) := by
    simp [Timestamp.compare?,Timestamp.comparable,same]
  simp only [less,compareScalars,comparable,Except.map]
  rw [Except.ok.injEq,Bool.eq_iff_iff]
  simp [Std.compare_eq_lt]

end RoomTransfer
