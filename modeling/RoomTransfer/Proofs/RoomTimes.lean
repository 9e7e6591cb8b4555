import RoomTransfer.Proofs.Blameless
import RoomTransfer.Proofs.YearShift

/-! The times of rooms. A room that was never closed stays open for whole years, which always ends
later than it began; one that was closed is made exactly where that was not before it opened. What
is left for the interval itself to check has been checked before. -/
namespace RoomTransfer

structure Row.Described (row : Row) : Prop where
  id : (row.find? "id").isSome
  audience : (row.find? "audience").isSome
  createdAt : (row.find? "created_at").isSome

namespace Room

def between (row : Row) (lower upper : Timestamp) : Room :=
  ⟨row.get "id",row.get "audience",row.get "parent_id",⟨.stamp lower,.stamp upper⟩,
    row.get "created_at"⟩

variable {row : Row} {years : Int} {opened closed : Timestamp}

/-- Once the close time is settled, only the order of the two instants decides. -/
theorem ofRow_timed (described : row.Described) (start : row.get "opened_at" = .stamp opened)
    (ending : closeTime row (.stamp opened) years = .ok (.stamp closed))
    (same : closed.offset.isSome = opened.offset.isSome) :
    ofRow row years = if closed.instant < opened.instant
      then .error (.record "room" (row.get "id") (reversedReason (.stamp opened) (.stamp closed)))
      else .ok (between row opened closed) := by
  have order := Value.less_stamps same
  unfold ofRow
  rw [start]
  by_cases reversed : closed.instant < opened.instant
  · rw [decide_eq_true reversed] at order
    simp only [ending,order,bind,Except.bind,if_pos reversed]
  · rw [decide_eq_false reversed] at order
    simp only [ending,order,bind,Except.bind,if_neg reversed,Interval.ofValues_ordered order,
      Row.require_present described.id,Row.require_present described.audience,
      Row.require_present described.createdAt]
    rfl

/-- A shift by years keeps what a date has, the leap day apart, and leads to a later moment. So a room
that was never closed is made, and one that was closed is refused exactly where it closed before
it opened. What it is refused for is never found by the check of its interval. -/
theorem times_exact :
    (∀ (m : Timestamp) (years : Nat), 0 < years → m.date.year + years ≤ 9999 →
      ∃ u, shiftYears (.stamp m) years = .ok (.stamp u) ∧ m.Anniversary years u ∧
        m.instant < u.instant ∧
        ∀ row : Row, row.Described → row.get "opened_at" = .stamp m → row.get "closed_at" = .null →
          ofRow row years = .ok (between row m u)) ∧
    (∀ (m : Timestamp) (a b : Nat), 0 < a → 0 < b → m.date.year + a + b ≤ 9999 →
      ¬ m.date.IsLeapDay →
      (shiftYears (.stamp m) a >>= fun u => shiftYears u b) = shiftYears (.stamp m) (a + b : Nat)) ∧
    (∀ (row : Row) (years : Int) (m c : Timestamp), row.Described →
      row.get "opened_at" = .stamp m → row.get "closed_at" = .stamp c →
      c.offset.isSome = m.offset.isSome →
        (m.instant ≤ c.instant → ofRow row years = .ok (between row m c)) ∧
        (c.instant < m.instant →
          ∃ reason, ofRow row years = .error (.record "room" (row.get "id") reason))) ∧
    ∀ (row : Row) (years : Int) (message : String), ofRow row years ≠ .error (.badValue message) := by
  refine ⟨fun m years positive within => ?_,fun m a b _ _ within common =>
    shiftYears_shiftYears within common,fun row years m c described start closed same => ?_,
    fun row years message failed => ?_⟩
  · obtain ⟨u,shifted,anniversary⟩ := shiftYears_anniversary within
    have later := anniversary.instant_lt positive
    refine ⟨u,shifted,anniversary,later,fun row described start unclosed => ?_⟩
    have ending : closeTime row (.stamp m) years = .ok (.stamp u) := by
      rw [closeTime,unclosed,← shifted]
    rw [ofRow_timed described start ending (by rw [anniversary.offset]),if_neg (by omega)]
  · have ending : closeTime row (.stamp m) years = .ok (.stamp c) := by
      rw [closeTime,closed]
    rw [ofRow_timed described start ending same]
    exact ⟨fun ordered => if_neg (by omega),fun reversed => ⟨_,if_pos reversed⟩⟩
  · cases ofRow_refusal row years _ failed

def leapMoment : Timestamp :=
  ⟨⟨2000,2,29,by decide,by decide,by decide⟩,86340000000,some (-18000),by decide⟩

def leapInstant : Timestamp :=
  ⟨⟨2000,3,1,by decide,by decide,by decide⟩,17940000000,some 0,by decide⟩

def leapRow (closed : Value) : Row :=
  [("id",.uuid ⟨1⟩),("audience",.text "example.org"),("created_at",.stamp .first),
    ("opened_at",.stamp leapMoment),("closed_at",closed)]

/-- A century has no leap day, and a room may close in the instant in which it opens. -/
theorem leap_room_times :
    (∃ u, ofRow (leapRow .null) (100 : Nat) = .ok (between (leapRow .null) leapMoment u) ∧
      u.date.year = 2100 ∧ u.date.month = 2 ∧ u.date.day = 28) ∧
    ofRow (leapRow (.stamp leapInstant)) 1 =
      .ok (between (leapRow (.stamp leapInstant)) leapMoment leapInstant) ∧
    (∃ reason, ofRow (leapRow (.stamp .first)) 1 = .error (.record "room" (.uuid ⟨1⟩) reason)) ∧
    (shiftYears (.stamp leapInstant) (4 : Nat) >>= fun u => shiftYears u (96 : Nat)) =
      shiftYears (.stamp leapInstant) (4 + 96 : Nat) := by
  obtain ⟨unclosed,composed,closed,_⟩ := times_exact
  have described (closed : Value) : (leapRow closed).Described := ⟨rfl,rfl,rfl⟩
  refine ⟨?_,?_,?_,composed leapInstant 4 96 (by decide) (by decide) (by decide) (by decide)⟩
  · obtain ⟨u,_,anniversary,_,made⟩ := unclosed leapMoment 100 (by decide) (by decide)
    exact ⟨u,made _ (described _) rfl rfl,anniversary.year,anniversary.month,anniversary.day⟩
  · exact (closed _ _ leapMoment leapInstant (described _) rfl rfl rfl).1 (by decide)
  · exact (closed _ _ leapMoment .first (described _) rfl rfl rfl).2 (by decide)

end Room

end RoomTransfer
