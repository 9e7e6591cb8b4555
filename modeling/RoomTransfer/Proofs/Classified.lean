import RoomTransfer.Proofs.Dealings
import RoomTransfer.Proofs.Forgiving

/-! Failures of the databases. None leaves a run as it is: by the request that it answers it
becomes a failure of the transfer, which is raised and told by the state. -/
namespace RoomTransfer

open Store

namespace Store.Request

/-- What a failure of a database is to the transfer, by the request that it answers. -/
def verdict (location cause : String) : Request → Failure
  | .connect .legacy _ _ => .legacyRefused location cause
  | .connect .target _ _ => .targetRefused cause
  | .execute .legacy _ _ _ | .fetch _ _ _ => .legacyQuery cause
  | .insert sql rows => .batchRefused rows.length (tableOf sql) cause
  | .execute .target _ _ _ | .begin | .commit | .close _ => .transactionFailed cause

/-- What is said of such a failure before its own words. -/
def lead (location : String) : Request → String
  | .connect .legacy _ _ => "Cannot connect to legacy store " ++ location ++ ": "
  | .connect .target _ _ => "Cannot connect to target store: "
  | .execute .legacy _ _ _ | .fetch _ _ _ => "Legacy query failed: "
  | .insert sql rows => "Failed to write " ++ String.ofList (Number.digits rows.length) ++
      " row(s) to " ++ tableOf sql ++ ": "
  | .execute .target _ _ _ | .begin | .commit | .close _ => "Target transaction failed: "

theorem verdict_message (location cause : String) (request : Request) :
    (request.verdict location cause).message = request.lead location ++ cause := by
  rcases request with ⟨_ | _,_,_⟩ | ⟨_ | _,_,_,_⟩ | _ | _ | _ | _ | _ <;> rfl

variable {failure : Failure}

/-- What a refused request hands on is, in the end, its verdict. -/
theorem handed_verdict (location : String) (request : Request) (database : failure.isDatabase = true) :
    (request.handed location failure).isBooked = true ∧
      (request.handed location failure).classified .transactionFailed =
        request.verdict location failure.message := by
  have named (f : String → Failure) : failure.classified f = f failure.message := if_pos database
  have query : Link.fetchFailure failure = .legacyQuery failure.message := if_pos database
  have kept : failure.isBooked = true := by simp [Failure.isBooked,database]
  rcases request with ⟨_ | _,_,_⟩ | ⟨_ | _,_,_,_⟩ | _ | _ | _ | _ | _
  all_goals simp only [handed,verdict,named,query]
  case connect.legacy | connect.target | execute.legacy | insert | fetch => exact ⟨rfl,rfl⟩
  all_goals exact ⟨kept,trivial⟩

end Store.Request

section Blame

variable {σ : Type} {w : World σ}

theorem Run.bind_blameless {α β : Type} {x : Run σ α} {f : α → Run σ β}
    (first : Blameless (x w).result) (rest : ∀ a v, Blameless (f a v).result) :
    Blameless ((x >>= f) w).result := by
  rw [Run.bind_apply]
  cases result : (x w).result with
  | error failure => exact .error (first failure result)
  | ok a => exact rest a _

theorem Run.ofExcept_blameless {α : Type} {result : Except Failure α} (blameless : Blameless result) :
    Blameless (Run.ofExcept result w).result := by
  cases result with
  | error failure => exact .error (blameless failure rfl)
  | ok a => exact .ok a

theorem RunState.duration_blameless (s : RunState) : Blameless s.duration := by
  unfold duration
  split
  · exact .ok _
  · exact .ok _
  · split
    · exact .ok _
    · exact .error rfl
  · split
    · exact .error rfl
    · exact .error rfl

theorem Summary.watermarkLines_blameless (v : Value) : Blameless (watermarkLines v) := by
  unfold watermarkLines
  split
  · exact .ok _
  · exact .ok _
  · exact .error rfl

theorem Run.logParts_blameless {parts : List (Except Failure (List Log.Record))}
    (each : ∀ part ∈ parts, Blameless part) : Blameless (Run.logParts parts w).result := by
  induction parts generalizing w with
  | nil => exact .ok ()
  | cons part rest ih =>
    refine Run.bind_blameless (Run.ofExcept_blameless (each part (.head _))) fun records v => ?_
    refine Run.bind_blameless ?_ fun _ v => ih fun other member => each other (.tail _ member)
    rw [Run.logAll_apply]
    exact .ok ()

theorem Summary.ofSuccess_blameless (s : RunState) : ∀ part ∈ ofSuccess s, Blameless part := by
  intro part member
  have lasted := s.duration_blameless
  unfold ofSuccess at member
  split at member
  next failure failed =>
    obtain rfl := List.mem_singleton.mp member
    exact .error (lasted failure failed)
  next =>
    simp only [List.mem_cons,List.not_mem_nil,or_false] at member
    rcases member with rfl | rfl | rfl | rfl | rfl | rfl
    · exact .ok _
    · exact watermarkLines_blameless _
    all_goals exact .ok _

namespace Migration

theorem finish_blameless : Blameless (finish w).result := by
  refine Run.bind_blameless ?_ fun _ v => Run.bind_blameless (.ok ()) fun _ v =>
    Run.bind_blameless (.ok _) fun s v => Run.logParts_blameless (Summary.ofSuccess_blameless s)
  obtain ⟨t,looked⟩ := Run.now_returns w
  rw [looked]
  exact .ok t

theorem conclude_blameless (failure : Failure) : Blameless (conclude failure w).result := by
  have looked : Blameless (Run.now w).result := by
    obtain ⟨t,looked⟩ := Run.now_returns w
    rw [looked]
    exact .ok t
  refine Run.bind_blameless looked fun _ v => Run.bind_blameless (.ok ()) fun _ v =>
    Run.bind_blameless (.ok _) fun s v => Run.bind_blameless (Run.ofExcept_blameless ?_) fun records v => ?_
  · exact s.duration_blameless.bind fun _ => .ok _
  · rw [Run.logAll_apply]
    exact .ok ()

/-- Settling a failure never hands on one of a database. -/
theorem settle_blameless (failure : Failure) : Blameless (settle failure w).result := by
  have raised {failure : Failure} (foreign : failure.isDatabase = false) :
      Blameless ((conclude failure >>= fun _ => Run.fail failure : Run σ Unit) w).result :=
    Run.bind_blameless (conclude_blameless failure) fun _ _ => .error foreign
  unfold settle
  cases database : failure.isDatabase with
  | true =>
    simp only [Failure.foreign_of_isDatabase database,Bool.false_eq_true,if_false,if_true]
    exact raised rfl
  | false =>
    split
    · exact raised database
    · exact .error database

end Migration

end Blame

theorem blameless_lapses (options : Options) :
    Lapses options fun _ failure => failure.isDatabase = false where
  lasting _ _ _ _ foreign := foreign
  rooms := ⟨fun _ row _ _ failed => (Step.rooms_homemade options row).blameless _ failed,
    fun _ _ _ _ _ failed => (Step.booked_homemade _).blameless _ failed⟩
  adjustments := ⟨fun _ row _ _ failed => (Step.adjustments_homemade row).blameless _ failed,
    fun _ _ _ _ _ failed => (Step.booked_homemade _).blameless _ failed⟩
  watermark _ _ failed := (watermarkOf_homemade _).blameless _ failed
  message _ _ _ _ failed := (watermarkMessage_homemade _ _).blameless _ failed
  events watermark := ⟨fun _ row _ _ failed =>
      (Step.events_homemade options watermark row).blameless _ failed,
    fun _ _ _ _ _ failed => (Step.booked_homemade _).blameless _ failed⟩

namespace Migration

variable {σ : Type} [d : Database σ]

/-- What becomes of the failures of databases in a run. -/
structure Classified (settings : Settings) (w : World σ) : Prop where
  /-- None leaves the run as it is. -/
  wrapped : Blameless (migrate settings w).result
  /-- Where one comes first and the sessions can be closed behind it, or only the legacy database
  fails in that, it is raised and told by the state as what it is to the transfer. -/
  verdict : ∀ request fault closes, refusals (dealings settings w) = (request,fault) :: closes →
    request.isClose = false → fault.failure.isDatabase = true →
      (∀ refusal ∈ closes, isLenient refusal = true) →
        let verdict := request.verdict settings.legacy.location fault.failure.message
        Booked verdict (migrate settings w) ∧
          verdict.message = request.lead settings.legacy.location ++ fault.failure.message
  /-- To fail to close the legacy session changes nothing but what is told of it. -/
  lenient : SameButClosing (migrate settings w) (@migrate σ (forgiving d) settings w)

theorem migrate_blameless {settings : Settings} {w : World σ} (ready : Ready settings) :
    Blameless (migrate settings w).result := by
  rw [migrate_of_ready ready]
  cases (session settings w).result with
  | ok _ => exact finish_blameless
  | error failure => exact settle_blameless failure

/-- Every failure of a database is classified and recorded. -/
theorem database_failures_classified (settings : Settings) (w : World σ) (ready : Ready settings)
    (clock : Universal w.clock) : Classified settings w := by
  refine ⟨migrate_blameless ready,fun request fault closes refused inside database lenient => ?_,
    migrate_forgiving ready w⟩
  obtain ⟨body,ends,left,dealt,whole⟩ :=
    dealings_conclude (w := w) ready (blameless_lapses settings.options)
  rw [dealt,refusals_append] at refused
  rcases whole.account with ⟨granted,_⟩ | ⟨own,cause,one,failed⟩
  · -- Nothing but the closing of a session was refused.
    rw [granted,List.nil_append] at refused
    have member : (request,fault) ∈ refusals ends := by rw [refused]; exact .head _
    have closing := whole.closing _ (mem_refusals.mp member)
    rw [inside] at closing
    cases closing
  · rw [one] at refused
    obtain ⟨same,rest⟩ : (own,cause) = (request,fault) ∧ refusals ends = closes :=
      List.cons.inj refused
    obtain ⟨rfl,rfl⟩ := Prod.mk.inj same
    obtain ⟨booked,verdict⟩ := Request.handed_verdict settings.legacy.location own database
    have spared := whole.spared (by rw [rest]; exact lenient) fun failure same => by
      obtain rfl := Except.error.inj (failed.symm.trans same)
      exact Failure.undemanded_of_isBooked booked
    have settled := migrate_booked ready clock (spared.trans failed) booked
    rw [verdict] at settled
    exact ⟨settled,Request.verdict_message _ _ _⟩

/-- A room that the target refuses to take, behind which the legacy session cannot be closed. -/
def refusedRoom : World Scripts where
  stores := {
    legacy := {
      rows := [("legacy_rooms",[[("id",.text "r"),("created_at",.stamp .first),
        ("opened_at",.stamp .first),("closed_at",.null),("audience",.text "a"),
        ("parent_id",.null)]])]
      traps := [⟨"close",1,.raised (.database "InterfaceError") "already closed"⟩] }
    target := { traps := [⟨"insert into room",0,.raised (.database "DataError") "bad range"⟩] } }
  clock := [Timestamp.first]

theorem refused_room_classified : Classified connected refusedRoom ∧
    (∃ refusal ∈ refusals (dealings connected refusedRoom), isLenient refusal = true) ∧
      ∃ verdict, Booked verdict (migrate connected refusedRoom) ∧
        verdict.message = "Failed to write 1 row(s) to room: bad range" := by
  have classified := database_failures_classified connected refusedRoom ⟨rfl,rfl⟩
    ⟨by simp [refusedRoom],by simp [refusedRoom,Timestamp.first]⟩
  have told : ((refusals (dealings connected refusedRoom)).map fun refusal =>
      (refusal.1.isClose,refusal.2.failure.isDatabase,isLenient refusal,
        refusal.1.lead connected.legacy.location ++ refusal.2.failure.message)) =
      [(false,true,false,"Failed to write 1 row(s) to room: bad range"),
        (true,true,true,"Target transaction failed: already closed")] := by decide +kernel
  refine ⟨classified,?_⟩
  rcases refused : refusals (dealings connected refusedRoom) with
    _ | ⟨⟨request,fault⟩,_ | ⟨close,rest⟩⟩
  · simp [refused] at told
  · simp [refused] at told
  · simp only [refused,List.map_cons,List.cons.injEq,Prod.mk.injEq,List.map_eq_nil_iff] at told
    obtain ⟨⟨inside,database,_,text⟩,⟨_,_,lenient,_⟩,rfl⟩ := told
    obtain ⟨booked,message⟩ := classified.verdict request fault [close] refused inside database
      (by simpa using lenient)
    exact ⟨⟨close,by simp,lenient⟩,_,booked,message.trans text⟩

end Migration

end RoomTransfer
