import RoomTransfer.Proofs.Faulty
import RoomTransfer.Proofs.Merged
import RoomTransfer.Proofs.ReportedOutcome

/-! Whole histories of runs over one target. Between the runs the legacy database may become
another one, and each run may fail anywhere; still the target tables only ever gain rows, and what
they hold of a room is what the committed runs have read of it, merged. -/
namespace RoomTransfer

open Store Store.Faulty

namespace Migration

section Sessions

variable {w : World Faulty} {settings : Settings}

/-- The conduct that keeps the databases steady. -/
def steadily : Conduct Faulty where
  allows _ := True
  moves u v := Steady u.stores v.stores
  refl _ := .refl
  trans first second := first.trans second

theorem preparing_steady : Steady w.stores (preparing settings w).world.stores := by
  have acquired : (Link.acquire settings.legacy : Run Faulty Unit).Follows steadily := by
    refine fun w => ⟨?_,fun _ _ => trivial⟩
    change Steady w.stores (Link.acquire settings.legacy w).traffic.stores
    rw [acquire_passage]
    cases w.linkOpen with
    | true => exact .refl
    | false => exact Traffic.bind_steady (answer_steady nofun) fun _ _ => .refl
  have opened : (openTarget settings : Run Faulty Unit).Follows steadily := by
    refine fun w => ⟨?_,fun _ _ => trivial⟩
    change Steady w.stores (openTarget settings w).traffic.stores
    rw [openTarget_passage]
    exact Traffic.bind_steady (answer_steady nofun) fun _ _ => .refl
  have started : (start : Run Faulty Unit).Follows steadily :=
    start_follows ⟨fun _ _ => trivial,fun _ _ => .refl,fun _ _ _ => .refl⟩
  exact (started.bind fun _ => acquired.bind fun _ => opened).world w

theorem release_steady : (Link.release : Run Faulty Unit).Follows steadily := by
  refine fun w => ⟨?_,fun _ _ => trivial⟩
  cases isOpen : w.linkOpen with
  | true =>
    change Steady w.stores (Link.release w).traffic.stores
    rw [release_passage isOpen]
    exact dealing_steady nofun
  | false => simp [Link.release,Run.world,Run.bind_apply,isOpen,steadily,Steady.refl]

theorem cleanUp_steady : Steady w.stores (cleanUp w).world.stores := by
  have closed : (closeTarget : Run Faulty Unit).Follows steadily := by
    refine fun w => ⟨?_,fun _ _ => trivial⟩
    change Steady w.stores (closeTarget w).traffic.stores
    rw [closeTarget_passage]
    exact Traffic.bind_steady (answer_steady nofun) fun _ _ => .refl
  exact (closed.ensuring release_steady).world w

/-- Once a session is prepared its link is open, and the flag for a dry run is that of the run. -/
theorem prepared_kept (prepared : (preparing settings w).result = .ok ()) :
    (preparing settings w).world.linkOpen = true ∧
      (preparing settings w).world.state.dryRun = w.state.dryRun := by
  refine ⟨?_,(preparing_quietly settings).world w⟩
  obtain ⟨_,_,rest⟩ := Run.bind_result_ok.mp prepared
  obtain ⟨_,acquired,_⟩ := Run.bind_result_ok.mp rest
  have kept := (openTarget_steady settings).world (Link.acquire settings.legacy (start w).world).world
  have whole : preparing settings w = _ := Run.bind_of_ok start_result
  rw [whole,Run.bind_of_ok acquired]
  exact (Prod.mk.inj kept).1.trans (acquire_opens acquired)

theorem writing_stores :
    (writing settings w).world.stores = (transaction (steps settings.options) w).world.stores := by
  unfold writing
  rw [Run.bind_apply]
  cases (transaction (steps settings.options) w).result <;> rfl

theorem block_passage (options : Options) :
    ((Run.ask .begin >>= fun _ => steps options : Run Faulty Unit) w).traffic =
      (dealing .begin w.stores).bind fun _ => stepsPassage options w.linkOpen := by
  have kept : (Run.ask .begin w).world.linkOpen = w.linkOpen := by rw [Run.ask_world]
  rw [← Run.ask_traffic]
  refine Run.traffic_bind (fun _ => stepsPassage options w.linkOpen) fun _ _ => ?_
  rw [steps_passage,kept]

/-- What a session leaves in the kept tables once it is prepared: what it has received where its
transaction is committed, and otherwise what was there before. -/
theorem session_kept (prepared : (preparing settings w).result = .ok ()) :
    let committed := succeeded Item.isCommit
      (traceOf (transaction (steps settings.options) (preparing settings w).world).effects)
    let kept := (session settings w).world.stores.kept
    (committed = true → Received settings.options
      (w.stores.serve (Step.rooms settings.options).question).rows w.stores.kept kept) ∧
    (committed = false → kept = w.stores.kept) := by
  intro committed kept
  obtain ⟨isOpen,dry⟩ := prepared_kept prepared
  have before : Steady w.stores (preparing settings w).world.stores := preparing_steady
  have after : Steady (transaction (steps settings.options) (preparing settings w).world).world.stores
      (session settings w).world.stores := by
    rw [session_of_prepared prepared,Run.ensuring_apply,← writing_stores]
    exact cleanUp_steady
  have granted := transaction_succeeded (w := (preparing settings w).world) settings.options
  have passage := transaction_passage (w := (preparing settings w).world) settings.options
  have block := block_passage (w := (preparing settings w).world) settings.options
  rw [isOpen] at block
  rw [isOpen,dry] at passage
  rw [dry] at granted
  constructor
  · intro yes
    obtain ⟨left,real,returned⟩ := granted.mp yes
    rw [real] at passage
    have received := transaction_received ((congrArg Traffic.result block).symm.trans left)
      ((congrArg Traffic.result passage).symm.trans returned)
    rw [← passage,before.serve,before.kept] at received
    rw [show kept = _ from after.kept]
    exact received
  · intro no
    rcases transaction_steady with steady | ⟨left,real,returned⟩
    · rw [← passage] at steady
      exact ((before.trans steady).trans after).kept
    · rw [← block] at left
      rw [← passage] at returned
      exact absurd (granted.mpr ⟨left,real,returned⟩) (Bool.eq_false_iff.mp no)

def commits (o : Outcome Faulty Unit) : Bool := succeeded Item.isCommit (traceOf o.effects)

/-- What a run leaves in the kept tables: what it has received where it commits, and otherwise what
was there before. -/
theorem migrate_kept : let o := migrate settings w
    (commits o = true → Received settings.options
      (w.stores.serve (Step.rooms settings.options).question).rows w.stores.kept o.world.stores.kept) ∧
    (commits o = false → o.world.stores.kept = w.stores.kept) := by
  intro o
  by_cases ready : Ready settings
  · have stores : o.world.stores = (session settings w).world.stores := by
      change (migrate settings w).world.stores = _
      rw [migrate_of_ready ready]
      exact ending_stores _ _
    rw [stores]
    cases prepared : (preparing settings w).result with
    | error failure =>
      have before : Steady w.stores (preparing settings w).world.stores := preparing_steady
      have quiet : commits o = false := succeeded_absent fun item member =>
        (Item.isQuiet_iff.mp ((trace_unprepared ready prepared).quiet item member)).2.1
      rw [session_of_unprepared prepared,Run.ensuring_apply,quiet]
      exact ⟨nofun,fun _ => (before.trans (release_steady.world _)).kept⟩
    | ok _ =>
      have committed : commits o = succeeded Item.isCommit
          (traceOf (transaction (steps settings.options) (preparing settings w).world).effects) :=
        succeeded_commit ready prepared
      rw [committed]
      exact session_kept prepared
  · obtain ⟨failure,same⟩ := migrate_of_unready (w := w) ready
    have still : o = _ := same
    rw [still]
    exact ⟨nofun,fun _ => rfl⟩

end Sessions

/-- One run of a history: its settings, what the databases answer and where they fail, and what is
left of the runs before it apart from the tables. -/
structure Turn where
  settings : Settings
  serve : Request → Reply
  faults : List (Option Fault)
  state : RunState
  clock : List Timestamp
  linkOpen : Bool

namespace Turn

def world (turn : Turn) (kept : String → Table) : World Faulty where
  stores := ⟨turn.serve,turn.faults,kept,kept⟩
  state := turn.state
  clock := turn.clock
  linkOpen := turn.linkOpen

/-- How a run goes over tables that are kept. -/
def outcome (turn : Turn) (kept : String → Table) : Outcome Faulty Unit :=
  migrate turn.settings (turn.world kept)

def left (turn : Turn) (kept : String → Table) : String → Table :=
  (turn.outcome kept).world.stores.kept

def served (turn : Turn) : List Row := (turn.serve (Step.rooms turn.settings.options).question).rows

def roomsUnder (turn : Turn) (key : Key) : List Stored :=
  match plainRooms turn.settings.options turn.served with
  | .ok made => Table.rowsUnder .rooms key made
  | .error _ => []

end Turn

/-- The tables that are kept after a history of runs. -/
def after : (String → Table) → List Turn → String → Table
  | kept,[] => kept
  | kept,turn :: rest => after (turn.left kept) rest

/-- What the committed runs of a history have read under a key of the rooms, in order. -/
def roomsRead (key : Key) : (String → Table) → List Turn → List Stored
  | _,[] => []
  | kept,turn :: rest => (if commits (turn.outcome kept) then turn.roomsUnder key else []) ++
      roomsRead key (turn.left kept) rest

/-- No row of the tables disappears, and those of adjustments and events do not change. -/
structure Outlasts (before after : String → Table) : Prop where
  there : ∀ table key, (before table).find? key ≠ none → (after table).find? key ≠ none
  same : ∀ table, table = "adjustment" ∨ table = "event" → ∀ key row,
    (before table).find? key = some row → (after table).find? key = some row

namespace Outlasts

variable {before between after : String → Table}

theorem refl : Outlasts before before := ⟨fun _ _ there => there,fun _ _ _ _ same => same⟩

theorem trans (first : Outlasts before between) (second : Outlasts between after) :
    Outlasts before after :=
  ⟨fun table key there => second.there table key (first.there table key there),
    fun table fixed key row same => second.same table fixed key row (first.same table fixed key row same)⟩

end Outlasts

theorem outlasts_of_received {options : Options} {rooms : List Row} {before after : String → Table}
    (received : Received options rooms before after) : Outlasts before after := by
  obtain ⟨_,_,_,roomsDone⟩ := received.rooms
  obtain ⟨_,_,adjustmentsDone⟩ := received.adjustments
  obtain ⟨_,_,eventsDone⟩ := received.events
  have unrefreshed : (Step.eventInsert options.watermarkMode).refreshed = [] := by
    rcases options.watermarkMode with (_ | _) | _ <;> rfl
  constructor
  · intro table key there
    by_cases room : table = "room"
    · subst room
      exact Table.insertAll_there roomsDone there
    · by_cases adjustment : table = "adjustment"
      · subst adjustment
        exact Table.insertAll_there adjustmentsDone there
      · by_cases event : table = "event"
        · subst event
          exact Table.insertAll_there eventsDone there
        · rw [received.others table room adjustment event]
          exact there
  · rintro table (rfl | rfl) key row found
    · exact Table.insertAll_same adjustmentsDone rfl found
    · exact Table.insertAll_same eventsDone unrefreshed found

section Turns

variable {kept : String → Table}

theorem Turn.left_cases (turn : Turn) (kept : String → Table) :
    (commits (turn.outcome kept) = true ∧
      Received turn.settings.options turn.served kept (turn.left kept)) ∨
    (commits (turn.outcome kept) = false ∧ turn.left kept = kept) := by
  have either : (commits (turn.outcome kept) = true →
      Received turn.settings.options turn.served kept (turn.left kept)) ∧
    (commits (turn.outcome kept) = false → turn.left kept = kept) := migrate_kept
  obtain ⟨granted,denied⟩ := either
  cases committed : commits (turn.outcome kept) with
  | true => exact .inl ⟨rfl,granted committed⟩
  | false => exact .inr ⟨rfl,denied committed⟩

theorem Turn.outlasts (turn : Turn) (kept : String → Table) : Outlasts kept (turn.left kept) := by
  rcases turn.left_cases kept with ⟨_,received⟩ | ⟨_,same⟩
  · exact outlasts_of_received received
  · rw [same]
    exact .refl

/-- One run merges what it reads of a room into what is there, if it commits. -/
theorem Turn.find?_room (turn : Turn) (kept : String → Table) (key : Key) :
    (turn.left kept "room").find? key = Stored.merged ["time"]
      (((kept "room").find? key).toList ++
        if commits (turn.outcome kept) then turn.roomsUnder key else []) := by
  rcases turn.left_cases kept with ⟨committed,received⟩ | ⟨committed,same⟩
  · obtain ⟨made,_,read,done⟩ := received.rooms
    rw [Table.find?_insertAll done,committed,if_pos rfl,Turn.roomsUnder,read]
    rfl
  · rw [same,committed,if_neg Bool.false_ne_true,List.append_nil,Stored.merged_toList]

theorem after_append (kept : String → Table) (past later : List Turn) :
    after kept (past ++ later) = after (after kept past) later := by
  induction past generalizing kept with
  | nil => rfl
  | cons turn rest ih => exact ih (turn.left kept)

theorem after_outlasts (kept : String → Table) (history : List Turn) :
    Outlasts kept (after kept history) := by
  induction history generalizing kept with
  | nil => exact .refl
  | cons turn rest ih => exact (turn.outlasts kept).trans (ih (turn.left kept))

theorem find?_room (kept : String → Table) (history : List Turn) (key : Key) :
    (after kept history "room").find? key =
      Stored.merged ["time"] (((kept "room").find? key).toList ++ roomsRead key kept history) := by
  induction history generalizing kept with
  | nil => rw [roomsRead,List.append_nil,Stored.merged_toList,after]
  | cons turn rest ih =>
    change (after (turn.left kept) rest "room").find? key = _
    rw [ih,turn.find?_room,roomsRead,← List.append_assoc]
    exact (Stored.merged_append _ _ _).symm

end Turns

/-- What a history of runs has made of the kept tables. -/
structure WriteOnce (initial : String → Table) (history : List Turn) : Prop where
  /-- Whatever was kept after some of the runs is still there. -/
  lasting : ∀ past later, history = past ++ later →
    Outlasts (after initial past) (after initial history)
  /-- Where a run commits, all the rooms that it found could be read. -/
  read : ∀ past turn later, history = past ++ turn :: later →
    commits (turn.outcome (after initial past)) = true →
      ∃ made, plainRooms turn.settings.options turn.served = .ok made
  /-- All of a room is as in its first row but the time, which is that of its last. -/
  rooms : ∀ key, (after initial history "room").find? key =
    Stored.merged ["time"] (((initial "room").find? key).toList ++ roomsRead key initial history)

/-- Whatever the runs of a history are and however they end, a row that they have written once
stays, and only the time of a room is ever written again. -/
theorem write_once (initial : String → Table) (history : List Turn) : WriteOnce initial history := by
  constructor
  · rintro past later rfl
    rw [after_append]
    exact after_outlasts _ later
  · rintro past turn later rfl committed
    rcases turn.left_cases (after initial past) with ⟨_,received⟩ | ⟨denied,_⟩
    · obtain ⟨made,_,read,_⟩ := received.rooms
      exact ⟨made,read⟩
    · rw [committed] at denied
      cases denied
  · exact find?_room initial history

/-- A real run that finds one room, of this audience. -/
def visit (audience : String) : Turn where
  settings := connected
  serve
    | .execute .legacy "legacy_rooms" _ _ => {
      rows := [[("id",.text "r"),("created_at",.stamp .first),("opened_at",.stamp .first),
        ("closed_at",.null),("audience",.text audience),("parent_id",.null)]] }
    | _ => {}
  faults := []
  state := {}
  clock := [Timestamp.first]
  linkOpen := false

example : let history := [visit "a",visit "b"]
    (roomsRead (.text "r") (fun _ => ⟨[],.nil⟩) history).length = 2 ∧
      ((after (fun _ => ⟨[],.nil⟩) history "room").find? (.text "r")).map (fun row =>
        match row "audience" with
        | some (.value (.text audience)) => audience
        | _ => "") = some "a" := by decide +kernel

end Migration

end RoomTransfer
