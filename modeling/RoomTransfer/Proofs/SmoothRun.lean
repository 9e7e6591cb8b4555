import RoomTransfer.Proofs.Blameless
import RoomTransfer.Proofs.TransactionSafety

/-! Whole runs over smooth databases. Sessions open and close, the transaction begins and commits,
and every moment of the clock can be compared with every other; then a run ends just as its three
steps do. -/
namespace RoomTransfer

open Store

/-- A clock that always tells universal time. -/
def Universal (clock : List Timestamp) : Prop :=
  clock ≠ [] ∧ ∀ t ∈ clock, t.offset.isSome = true

/-- A moment with an offset. -/
def Value.IsInstant (v : Value) : Prop := ∃ t, v = .stamp t ∧ t.offset.isSome = true

/-- The watermark of a state is unread, or a moment. -/
def RunState.Marked (s : RunState) : Prop := s.watermark = .null ∨ ∃ t, s.watermark = .stamp t

theorem RunState.Marked.of_same {s s' : RunState} (marked : s.Marked)
    (same : s'.watermark = s.watermark) : s'.Marked := by
  unfold RunState.Marked
  rw [same]
  exact marked

/-- Where the duration and the watermark are known, all that closes a run can be shown. -/
theorem Summary.ofSuccess_shown {s : RunState} {d : Number.Binary64} (lasted : s.duration = .ok d)
    (marked : s.Marked) : ∀ part ∈ Summary.ofSuccess s, ∃ records, part = .ok records := by
  intro part member
  unfold Summary.ofSuccess at member
  rw [lasted] at member
  have lines : ∃ records, Summary.watermarkLines s.watermark = .ok records := by
    rcases marked with unread | ⟨t,read⟩
    · rw [unread]; exact ⟨_,rfl⟩
    · rw [read]; exact ⟨_,rfl⟩
  obtain ⟨records,lines⟩ := lines
  rw [lines] at member
  simp only [List.mem_cons,List.not_mem_nil,or_false] at member
  rcases member with rfl | rfl | rfl | rfl | rfl | rfl <;> exact ⟨_,rfl⟩

section Clock

variable {σ : Type} {w : World σ}

theorem Run.now_universal (clock : Universal w.clock) :
    ∃ t rest, Run.now w = ⟨.ok t,{ w with clock := rest },[]⟩ ∧ t.offset.isSome = true ∧
      Universal rest := by
  obtain ⟨stores,state,times,linkOpen⟩ := w
  obtain ⟨some,all⟩ := clock
  match times with
  | [] => exact absurd rfl some
  | [t] => exact ⟨t,[t],rfl,all t (by simp),some,all⟩
  | t :: u :: rest =>
    exact ⟨t,u :: rest,rfl,all t (by simp),by simp,fun v member => all v (by simp [member])⟩

theorem RunState.duration_of_instants {s : RunState} (started : s.startedAt.IsInstant)
    (finished : s.finishedAt.IsInstant) : ∃ d, s.duration = .ok d := by
  obtain ⟨t,start,aware⟩ := started
  obtain ⟨u,finish,aware'⟩ := finished
  have span : t.until? u = some (u.instant - t.instant) := by
    simp [Timestamp.until?,Timestamp.comparable,aware,aware']
  unfold RunState.duration
  rw [start,finish]
  simp [span]

theorem Run.logAll_apply (records : List Log.Record) :
    logAll records w = ⟨.ok (),w,records.map .log⟩ := by
  induction records with
  | nil => rfl
  | cons record rest ih => simp [logAll,bind_apply,log,effect,ih]

theorem Run.logParts_returns {parts : List (Except Failure (List Log.Record))}
    (shown : ∀ part ∈ parts, ∃ records, part = .ok records) : (logParts parts w).result = .ok () := by
  induction parts with
  | nil => rfl
  | cons part rest ih =>
    obtain ⟨records,rfl⟩ := shown part (by simp)
    have later := ih fun other member => shown other (List.mem_cons_of_mem _ member)
    simp [logParts,bind_apply,ofExcept,logAll_apply,later]

theorem Migration.conclude_returns (clock : Universal w.clock)
    (started : w.state.startedAt.IsInstant) (failure : Failure) :
    (conclude failure w).result = .ok () := by
  obtain ⟨t,rest,looked,aware,_⟩ := Run.now_universal clock
  obtain ⟨d,lasted⟩ := RunState.duration_of_instants (s := { w.state with
    finishedAt := .stamp t, error := .text failure.message, committed := false }) started ⟨t,rfl,aware⟩
  have shown : ∃ records, Summary.ofFailure { w.state with
      finishedAt := .stamp t, error := .text failure.message, committed := false } failure true =
        .ok records := by
    unfold Summary.ofFailure
    rw [lasted]
    exact ⟨_,rfl⟩
  obtain ⟨records,shown⟩ := shown
  simp [conclude,Run.bind_apply,looked,Run.modifyState,Run.state,shown,Run.ofExcept,
    Run.logAll_apply]

theorem Migration.finish_returns (clock : Universal w.clock)
    (started : w.state.startedAt.IsInstant) (mark : w.state.Marked) :
    (finish w).result = .ok () := by
  obtain ⟨t,rest,looked,aware,_⟩ := Run.now_universal clock
  obtain ⟨d,lasted⟩ := RunState.duration_of_instants (s := { w.state with finishedAt := .stamp t })
    started ⟨t,rfl,aware⟩
  have logged (v : World σ) := Run.logParts_returns (w := v) (Summary.ofSuccess_shown lasted mark)
  simp [finish,Run.bind_apply,looked,Run.modifyState,Run.state,logged]

theorem Migration.start_smooth (clock : Universal w.clock) : ∃ t rest,
    (start w).world = { w with state := { w.state.reset with startedAt := .stamp t }, clock := rest } ∧
      t.offset.isSome = true ∧ Universal rest := by
  obtain ⟨t,rest,looked,aware,universal⟩ :=
    Run.now_universal (w := { w with state := w.state.reset }) clock
  refine ⟨t,rest,?_,aware,universal⟩
  simp [start,Run.bind_apply,Run.modifyState,looked,Run.state,Run.log,Run.effect]

theorem Migration.ending_stores (result : Except Failure Unit) (v : World σ) :
    (ending result v).world.stores = v.stores := by
  have admits : (Conduct.keeping World.stores fun _ => True : Conduct σ).AdmitsBooking :=
    ⟨fun _ _ => trivial,fun _ _ => rfl,fun _ _ _ => rfl⟩
  cases result with
  | ok _ => exact (finish_follows admits).world v
  | error failure => exact (settle_follows admits (fun _ => trivial) failure).world v

end Clock

section Sessions

variable {σ : Type} [Database σ] {P : σ → Prop} {settings : Settings} {w : World σ}

theorem Link.acquire_smooth (smooth : Smooth P) (holds : P w.stores) (credentials : Credentials) :
    (Link.acquire credentials w).result = .ok () ∧
      (Link.acquire credentials w).world = { w with linkOpen := true } := by
  cases isOpen : w.linkOpen with
  | true =>
    obtain ⟨stores,state,clock,linkOpen⟩ := w
    obtain rfl := isOpen
    exact ⟨rfl,rfl⟩
  | false =>
    have asked := Run.ask_smooth smooth holds
      (.connect .legacy none (credentials.keywords ++ [namedRows])) rfl
    simp only [Link.acquire,Run.world,Run.bind_apply,isOpen,Bool.false_eq_true,if_false,Run.log,
      Run.effect,Run.classify,Run.mapFailure_apply,asked,mapError_ok,Run.note,Run.setLink,
      and_self]

namespace Migration

theorem preparing_smooth (settings : Settings) (smooth : Smooth P) (holds : P w.stores) (clock : Universal w.clock) :
    (preparing settings w).result = .ok () ∧
      (preparing settings w).world = { (start w).world with linkOpen := true } := by
  obtain ⟨t,rest,started,_,_⟩ := start_smooth clock
  have holds' : P (start w).world.stores := by rw [started]; exact holds
  obtain ⟨acquired,world⟩ := Link.acquire_smooth smooth holds' settings.legacy
  unfold preparing
  rw [Run.bind_of_ok start_result,Run.bind_of_ok acquired,world]
  simp only [openTarget,Run.bind_apply,Run.classify,Run.mapFailure_apply]
  rw [Run.ask_smooth smooth (by exact holds') _ rfl]
  exact ⟨rfl,rfl⟩

theorem opening_smooth (smooth : Smooth P) (holds : P w.stores) (clock : Universal w.clock)
    (ready : Ready settings) : (opening settings w).result = .ok () ∧
      (opening settings w).world = { (start w).world with
        linkOpen := true, stores := (Database.answer .begin w.stores).2 } := by
  obtain ⟨prepared,world⟩ := preparing_smooth settings smooth holds clock
  obtain ⟨t,rest,started,_,_⟩ := start_smooth clock
  have same : (preparing settings w).world.stores = w.stores := by rw [world,started]
  obtain ⟨reply,s,answered,_⟩ := smooth.transaction w.stores holds .begin (.inl rfl)
  have begun : (Run.ask .begin (preparing settings w).world).result = .ok reply := by
    unfold Run.ask
    rw [same,answered]
  have opened := opened_iff.mpr ⟨ready,prepared,reply,begun⟩
  refine ⟨opened,?_⟩
  rw [opening_world opened,Run.ask_world,same,world]

theorem cleanUp_smooth (smooth : Smooth P) (holds : P w.stores) :
    (cleanUp w).result = .ok () ∧ (cleanUp w).world = { w with linkOpen := false } := by
  have closed : closeTarget w = ⟨.ok (),w,[.item (.request (.close .target))] ++ []⟩ := by
    unfold closeTarget
    rw [Run.bind_apply,Run.ask_smooth smooth holds (.close .target) rfl]
    rfl
  unfold cleanUp
  rw [Run.ensuring_apply,closed]
  cases isOpen : w.linkOpen with
  | false =>
    obtain ⟨stores,state,clock,linkOpen⟩ := w
    obtain rfl := isOpen
    exact ⟨rfl,rfl⟩
  | true =>
    have asked := Run.ask_smooth (w := { w with linkOpen := false }) smooth holds (.close .legacy) rfl
    simp only [Link.release,Run.world,Run.bind_apply,isOpen,if_true,Run.setLink,Run.attempt,asked,
      Run.log,Run.effect]
    exact ⟨rfl,trivial⟩

/-- Between the start of a run and the booking of its end, nothing happens to its times. -/
theorem steps_times (options : Options) :
    (steps options w).world.state.startedAt = w.state.startedAt ∧
      (steps options w).world.clock = w.clock := by
  have admits : (Conduct.keeping (fun w : World σ => (w.state.startedAt,w.clock))
      fun _ => True).AdmitsSteps :=
    ⟨⟨fun _ _ => trivial,fun _ _ => trivial,fun _ _ => rfl,fun _ _ _ => rfl⟩,fun _ _ => rfl⟩
  exact Prod.mk.inj ((steps_follows admits options).world w)

theorem block_holds (smooth : Smooth P) (holds : P w.stores) (clock : Universal w.clock)
    (ready : Ready settings) : P (block settings w).world.stores ∧
      (block settings w).traffic =
        stepsTraffic settings.options (Database.answer .begin w.stores).2 := by
  obtain ⟨_,world⟩ := opening_smooth smooth holds clock ready
  obtain ⟨reply,s,answered,begun⟩ := smooth.transaction w.stores holds .begin (.inl rfl)
  have opened : P (opening settings w).world.stores := by
    rw [world,answered]; exact begun
  have linked : (opening settings w).world.linkOpen = true := by rw [world]
  have traffic := steps_traffic smooth settings.options opened linked
  rw [world] at traffic
  refine ⟨?_,?_⟩
  · have kept := stepsTraffic_holds smooth settings.options opened
    rw [← steps_traffic smooth settings.options opened linked] at kept
    exact kept
  · unfold block
    rw [world]
    exact traffic

theorem block_homemade (smooth : Smooth P) (holds : P w.stores) (clock : Universal w.clock)
    (ready : Ready settings) : Homemade (block settings w).result := by
  obtain ⟨reply,s,answered,begun⟩ := smooth.transaction w.stores holds .begin (.inl rfl)
  have opened : P (Database.answer .begin w.stores).2 := by rw [answered]; exact begun
  change Homemade (block settings w).traffic.result
  rw [(block_holds smooth holds clock ready).2]
  exact stepsTraffic_homemade smooth settings.options opened

/-- The transaction of a run ends as its block does, and commits what a real block has written. -/
theorem writing_smooth (smooth : Smooth P) (holds : P w.stores) (clock : Universal w.clock)
    (ready : Ready settings) :
    let b := block settings w
    let o := writing settings (preparing settings w).world
    o.result = b.result ∧ ∃ stores committed, P stores ∧
      o.world = { b.world with stores, state := { b.world.state with committed } } ∧
      (b.result = .ok () → b.world.state.dryRun = false →
        stores = (Database.answer .commit b.world.stores).2) := by
  intro b o
  obtain ⟨opened,_⟩ := opening_smooth smooth holds clock ready
  obtain ⟨_,_,reply,begun⟩ := opened_iff.mp opened
  obtain ⟨kept,_⟩ := block_holds smooth holds clock ready
  have homemade := block_homemade smooth holds clock ready
  -- The block of the transaction is the steps in the world that its begin has left.
  have same : steps settings.options (Run.ask .begin (preparing settings w).world).world = b := by
    rw [← opening_world opened]
    rfl
  rw [← same]
  cases left : (steps settings.options (Run.ask .begin (preparing settings w).world).world).result with
  | error failure =>
    have written := transaction_failed begun left
    rw [same] at left
    have raised : passOn failure = .error failure := by
      simp [passOn,(Failure.isHomemade_iff.mp (homemade failure left)).2]
    rw [raised] at written
    have run : o = _ := Run.bind_of_error (by rw [written])
    rw [run,written,same]
    exact ⟨rfl,_,b.world.state.committed,kept,rfl,fun returned => by cases returned⟩
  | ok _ =>
    cases dry : (steps settings.options
        (Run.ask .begin (preparing settings w).world).world).world.state.dryRun with
    | true =>
      have written := transaction_dry begun left dry
      have run : o = _ := Run.bind_of_ok (by rw [written])
      rw [run,written,same]
      exact ⟨rfl,_,_,kept,rfl,fun _ real => by cases real⟩
    | false =>
      have written := transaction_committed begun left dry
      rw [same] at written
      obtain ⟨reply,s,answered,committed⟩ := smooth.transaction _ kept .commit (.inr rfl)
      have asked : (Run.ask .commit b.world).result = .ok reply ∧
          (Run.ask .commit b.world).world = { b.world with stores := s } := by
        rw [Run.ask_world]
        unfold Run.ask
        rw [answered]
        exact ⟨rfl,rfl⟩
      have run : o = _ := Run.bind_of_ok (by rw [written,asked.1]; rfl)
      rw [run,written,asked.1,asked.2,same]
      exact ⟨rfl,s,_,committed,rfl,fun _ _ => by rw [answered]⟩

theorem watermarkMessage_stamp {watermark : Value} {mode : ModeOption} {message : String}
    (told : watermarkMessage watermark mode = .ok message) : ∃ t, watermark = .stamp t := by
  cases watermark with
  | stamp t => exact ⟨t,rfl⟩
  | _ => cases mode <;> cases told

theorem transferEvents_watermark {options : Options} {n : Nat}
    (returned : (transferEvents options w).result = .ok n) :
    ∃ t, (transferEvents options w).world.state.watermark = .stamp t := by
  obtain ⟨watermark,read,rest⟩ := Run.bind_result_ok.mp returned
  obtain ⟨_,booked,rest⟩ := Run.bind_result_ok.mp rest
  obtain ⟨message,told,rest⟩ := Run.bind_result_ok.mp rest
  have admits : (Conduct.keeping (fun w : World σ => w.state.watermark) fun _ => True).AdmitsStep :=
    ⟨fun _ _ => trivial,fun _ _ => trivial,fun _ _ => rfl,fun _ _ _ => rfl⟩
  have stays : ((Run.log (.about Log.info "event" message) >>= fun _ =>
      (Step.events options watermark).run options : Run σ Nat)).Follows
        (.keeping (fun w => w.state.watermark) fun _ => True) :=
    (Run.follows_log trivial).bind fun _ => Step.run_follows admits _ options
  have found : watermarkMessage watermark options.watermarkMode = .ok message := by
    cases shown : watermarkMessage watermark options.watermarkMode with
    | error failure => rw [shown] at told; cases told
    | ok m => rw [shown] at told; cases told; rfl
  obtain ⟨t,rfl⟩ := watermarkMessage_stamp found
  refine ⟨t,?_⟩
  unfold transferEvents
  rw [Run.bind_of_ok read,Run.bind_of_ok booked,Run.bind_of_ok told,Run.ofExcept_world]
  exact stays.world _

/-- Before the watermark is found there is none, and what is found must be shown before anything else
is asked. -/
theorem transferEvents_marked {options : Options} (marked : w.state.Marked) {failure : Failure}
    (raised : (transferEvents options w).result = .error failure)
    (demanded : failure.isRollback = true) : (transferEvents options w).world.state.Marked := by
  have admits : (Conduct.keeping (fun w : World σ => w.state.watermark) fun _ => True).AdmitsStep :=
    ⟨fun _ _ => trivial,fun _ _ => trivial,fun _ _ => rfl,fun _ _ _ => rfl⟩
  cases read : (readWatermark w).result with
  | error cause =>
    have whole : transferEvents options w = _ := Run.bind_of_error read
    rw [whole]
    exact marked.of_same ((readWatermark_follows admits).world w)
  | ok watermark =>
    have whole : transferEvents options w = _ := Run.bind_of_ok read
    rw [whole] at raised ⊢
    have mode : Homemade (watermarkMessage watermark options.watermarkMode) :=
      watermarkMessage_homemade _ _
    cases told : watermarkMessage watermark options.watermarkMode with
    | error cause =>
      have other : failure = cause := by
        simpa [Run.bind_apply,Run.modifyState,told,Run.ofExcept,Run.fail,eq_comm] using raised
      have inner := Failure.isHomemade_iff.mp (mode cause told)
      rw [other,inner.2] at demanded
      cases demanded
    | ok message =>
      obtain ⟨t,rfl⟩ := watermarkMessage_stamp told
      have stays : ((Run.log (.about Log.info "event" message) >>= fun _ =>
          (Step.events options (.stamp t)).run options : Run σ Nat)).Follows
            (.keeping (fun w => w.state.watermark) fun _ => True) :=
        (Run.follows_log trivial).bind fun _ => Step.run_follows admits _ options
      exact .inr ⟨t,stays.world _⟩

/-- A run whose steps all return has read a watermark. -/
theorem steps_watermark {options : Options} (returned : (steps options w).result = .ok ()) :
    ∃ t, (steps options w).world.state.watermark = .stamp t := by
  have whole := (steps_return_iff options w).mp returned
  obtain ⟨n,events⟩ := whole.events
  rw [whole.world]
  exact transferEvents_watermark events

theorem steps_marked {options : Options} (marked : w.state.Marked) {failure : Failure}
    (raised : (steps options w).result = .error failure) (demanded : failure.isRollback = true) :
    (steps options w).world.state.Marked := by
  have admits : (Conduct.keeping (fun w : World σ => w.state.watermark) fun _ => True).AdmitsStep :=
    ⟨fun _ _ => trivial,fun _ _ => trivial,fun _ _ => rfl,fun _ _ _ => rfl⟩
  have kept (step : Step) (v : World σ) (before : v.state.Marked) :
      (step.run options v).world.state.Marked :=
    before.of_same ((Step.run_follows admits step options).world v)
  have rooms := kept (Step.rooms options) w marked
  have adjustments := kept Step.adjustments _ rooms
  have noted : ((Run.note (.cursor .target none) : Run σ Unit) w).result = .ok () := rfl
  have whole : steps options w = _ := Run.bind_of_ok noted
  rw [whole] at raised ⊢
  dsimp only [Run.note,Run.effect] at raised ⊢
  cases one : (announced "room" (transferRooms options) w).result with
  | error cause =>
    rw [Run.bind_of_error one,announced_world]
    exact rooms
  | ok _ =>
    rw [Run.bind_of_ok one] at raised ⊢
    rw [announced_world] at raised ⊢
    cases two : (announced "adjustment" (transferAdjustments options)
        (transferRooms options w).world).result with
    | error cause =>
      rw [Run.bind_of_error two,announced_world]
      exact adjustments
    | ok _ =>
      rw [Run.bind_of_ok two] at raised ⊢
      rw [announced_world] at raised ⊢
      rw [announced_world]
      refine transferEvents_marked adjustments ?_ demanded
      rw [announced_apply] at raised
      dsimp only at raised
      cases left : (transferEvents options
          (transferAdjustments options (transferRooms options w).world).world).result with
      | ok n => simp [left,Except.map] at raised
      | error cause => simpa [left,Except.map] using raised

/-- The sessions of a run end as its block does; its times are told by the clock. -/
theorem session_smooth (smooth : Smooth P) (holds : P w.stores) (clock : Universal w.clock)
    (ready : Ready settings) :
    let b := block settings w
    let o := session settings w
    o.result = b.result ∧ Universal o.world.clock ∧ o.world.state.startedAt.IsInstant ∧
      o.world.state.counters = b.world.state.counters ∧
      o.world.state.watermark = b.world.state.watermark ∧
      (b.result = .ok () → b.world.state.dryRun = false →
        o.world.stores = (Database.answer .commit b.world.stores).2) := by
  intro b o
  obtain ⟨prepared,_⟩ := preparing_smooth settings smooth holds clock
  obtain ⟨written,s,committed,kept,world,commits⟩ := writing_smooth smooth holds clock ready
  obtain ⟨closed,clean⟩ := cleanUp_smooth
    (w := (writing settings (preparing settings w).world).world) smooth (by rw [world]; exact kept)
  obtain ⟨t,rest,started,aware,universal⟩ := start_smooth clock
  obtain ⟨_,opened⟩ := opening_smooth smooth holds clock ready
  obtain ⟨startedAt,times⟩ := steps_times (w := (opening settings w).world) settings.options
  have result : o.result = b.result := by
    change (session settings w).result = _
    rw [session_of_prepared prepared]
    simp only [Run.ensuring_apply,closed,written]
    rfl
  have after : o.world = { b.world with
      linkOpen := false, stores := s, state := { b.world.state with committed } } := by
    change (session settings w).world = _
    rw [session_of_prepared prepared]
    simp only [Run.ensuring_apply,clean]
    rw [world]
  have clock' : b.world.clock = rest := by
    change (steps settings.options (opening settings w).world).world.clock = rest
    rw [times,opened,started]
  have start' : b.world.state.startedAt = .stamp t := by
    change (steps settings.options (opening settings w).world).world.state.startedAt = .stamp t
    rw [startedAt,opened,started]
  rw [after]
  exact ⟨result,by rw [← clock'] at universal; exact universal,⟨t,start',aware⟩,rfl,rfl,commits⟩

/-- Over smooth databases a run ends as its block does, and leaves what its transaction left. -/
theorem migrate_smooth (smooth : Smooth P) (holds : P w.stores) (clock : Universal w.clock)
    (ready : Ready settings) :
    (migrate settings w).result = (block settings w).result ∧
    ((block settings w).result = .ok () →
      (migrate settings w).world.state.counters = (block settings w).world.state.counters ∧
      (w.state.dryRun = false → (migrate settings w).world.stores =
        (Database.answer .commit (block settings w).world.stores).2)) := by
  obtain ⟨result,clock',started,counters,watermark,commits⟩ :=
    session_smooth smooth holds clock ready
  obtain ⟨opened,_⟩ := opening_smooth smooth holds clock ready
  have foreign := (block_homemade smooth holds clock ready).blameless
  rw [migrate_of_ready ready]
  cases left : (block settings w).result with
  | error failure =>
    have booked := conclude_returns clock' started failure
    refine ⟨?_,fun returned => by cases returned⟩
    rw [result,left]
    simp only [ending,settle,foreign failure left,Bool.false_eq_true,if_false]
    split
    · rw [Run.bind_of_ok booked]
      rfl
    · rfl
  | ok _ =>
    have mark : ∃ t, (session settings w).world.state.watermark = .stamp t := by
      rw [watermark]
      exact steps_watermark left
    rw [result,left]
    refine ⟨finish_returns clock' started (.inr mark),fun _ => ⟨?_,fun real => ?_⟩⟩
    · exact (finish_keeps RunState.counters fun _ _ => rfl).trans counters
    · refine (ending_stores _ _).trans (commits left ?_)
      rw [block_dryRun opened,real]

/-- All that a run writes is written by its steps. -/
theorem migrate_writes (opened : (opening settings w).result = .ok ()) :
    writesOf (traceOf (migrate settings w).effects) =
      writesOf (traceOf (block settings w).effects) := by
  obtain ⟨after,whole⟩ := bracketed opened
  have calm {items : List Item} (quiet : AllQuiet items) : writesOf items = [] := by
    refine List.filterMap_eq_nil_iff.mpr fun item member => ?_
    have still := (Item.isQuiet_iff.mp (quiet item member)).2.2.2
    cases item with
    | request request => cases request <;> first | rfl | cases still
    | _ => rfl
  have last : writesOf (endItem (block settings w).result w.state.dryRun :: after) =
      writesOf after := by
    cases (block settings w).result with
    | error failure => rfl
    | ok _ => cases w.state.dryRun <;> rfl
  have begun (items : List Item) : writesOf (.request .begin :: items) = writesOf items := rfl
  rw [whole.shape,writesOf_append,begun,writesOf_append,last,calm whole.quietBefore,
    calm whole.quietAfter,List.nil_append,List.append_nil]

end Migration

end Sessions

end RoomTransfer
