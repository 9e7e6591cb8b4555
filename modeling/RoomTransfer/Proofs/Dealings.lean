import RoomTransfer.Proofs.Tables
import RoomTransfer.Proofs.Watched

/-! How the dealings of a run account for its end. A part of a run fails by the request that was
refused, with none refused before it, or by a lapse of its own over what was answered; closing the
sessions comes behind. -/
namespace RoomTransfer

open Store

namespace Store

/-- The requests among dealings that were refused. -/
def refusals (dealings : List Dealing) : List (Request × Fault) :=
  dealings.filterMap fun
    | (request,.error fault) => some (request,fault)
    | (_,.ok _) => none

@[simp] theorem refusals_append (first second : List Dealing) :
    refusals (first ++ second) = refusals first ++ refusals second := List.filterMap_append

@[simp] theorem refusals_nil : refusals [] = [] := rfl

@[simp] theorem refusals_granted (request : Request) (reply : Reply) (rest : List Dealing) :
    refusals ((request,.ok reply) :: rest) = refusals rest := rfl

@[simp] theorem refusals_refused (request : Request) (fault : Fault) (rest : List Dealing) :
    refusals ((request,.error fault) :: rest) = (request,fault) :: refusals rest := rfl

theorem mem_refusals {dealings : List Dealing} {request : Request} {fault : Fault} :
    (request,fault) ∈ refusals dealings ↔ (request,.error fault) ∈ dealings := by
  induction dealings with
  | nil => simp
  | cons d rest ih =>
    obtain ⟨asked,answer⟩ := d
    cases answer <;> simp [ih]

/-- The table that a statement inserts into. -/
def tableOf (sql : String) : String := ((insertOf? sql).map Insert.table).getD ""

theorem tableOf_sql {i : Insert} (known : i ∈ inserts) : tableOf i.sql = i.table := by
  rw [tableOf,insertOf?_sql i known]
  rfl

/-- What the failure of a refused request is to the run that asked. -/
def Request.handed (location : String) (failure : Failure) : Request → Failure
  | .connect .legacy _ _ => failure.classified (.legacyRefused location)
  | .connect .target _ _ => failure.classified .targetRefused
  | .execute .legacy _ _ _ | .fetch _ _ _ => Link.fetchFailure failure
  | .insert sql rows => failure.classified (.batchRefused rows.length (tableOf sql))
  | .execute .target _ _ _ | .begin | .commit | .close _ => failure

end Store

/-- Dealings account for a result: the part failed by the one request that was refused, or nothing
was refused and a failure is a lapse. -/
def Accounted {α : Type} (location : String) (lapse : List Dealing → Failure → Prop)
    (made : List Dealing) (result : Except Failure α) : Prop :=
  (refusals made = [] ∧ ∀ failure, result = .error failure → lapse made failure) ∨
    ∃ request fault, refusals made = [(request,fault)] ∧
      result = .error (request.handed location fault.failure)

/-- What a lapse is does not depend on what else was dealt. -/
def Lasting (lapse : List Dealing → Failure → Prop) : Prop :=
  ∀ made more failure, made ⊆ more → lapse made failure → lapse more failure

namespace Accounted

variable {α β : Type} {location : String} {lapse : List Dealing → Failure → Prop}
  {made later : List Dealing} {result : Except Failure α} {failure : Failure} {a : α}

theorem granted (account : Accounted location lapse made (.ok a)) : refusals made = [] := by
  rcases account with ⟨granted,_⟩ | ⟨_,_,_,failed⟩
  · exact granted
  · cases failed

theorem error (account : Accounted location lapse made (.error failure : Except Failure α)) :
    Accounted location lapse made (.error failure : Except Failure β) := by
  rcases account with ⟨granted,lapsed⟩ | ⟨request,fault,refused,failed⟩
  · refine .inl ⟨granted,?_⟩
    rintro _ ⟨⟩
    exact lapsed failure rfl
  · exact .inr ⟨request,fault,refused,by cases failed; rfl⟩

theorem after (lasting : Lasting lapse) (none : refusals made = [])
    (account : Accounted location lapse later result) :
    Accounted location lapse (made ++ later) result := by
  rcases account with ⟨granted,lapsed⟩ | ⟨request,fault,refused,failed⟩
  · refine .inl ⟨by simp [none,granted],fun failure same => ?_⟩
    exact lasting _ _ _ (List.subset_append_right made later) (lapsed failure same)
  · exact .inr ⟨request,fault,by simp [none,refused],failed⟩

end Accounted

/-- The dealings of a part account for its result. -/
def Traffic.Accounts {σ α : Type} (location : String) (lapse : List Dealing → Failure → Prop)
    (s : Watched σ) (t : Traffic (Watched σ) α) : Prop :=
  ∃ made, t.stores.dealings = s.dealings ++ made ∧ Accounted location lapse made t.result

namespace Traffic

variable {σ α β : Type} {location : String} {lapse : List Dealing → Failure → Prop}
  {s : Watched σ} {t : Traffic (Watched σ) α} {next : α → Watched σ → Traffic (Watched σ) β}

theorem mapFailure_id (t : Traffic σ α) : t.mapFailure id = t := by
  obtain ⟨result,stores,writes⟩ := t
  cases result <;> rfl

theorem accounts_pure (a : α) : (pure a s).Accounts location lapse s :=
  ⟨[],(List.append_nil _).symm,.inl ⟨rfl,nofun⟩⟩

theorem Accounts.bind (lasting : Lasting lapse) (first : t.Accounts location lapse s)
    (rest : ∀ a s', (next a s').Accounts location lapse s') :
    (t.bind next).Accounts location lapse s := by
  obtain ⟨made,grown,account⟩ := first
  obtain ⟨result,stores,writes⟩ := t
  cases result with
  | error failure => exact ⟨made,grown,account.error⟩
  | ok a =>
    obtain ⟨later,grown',account'⟩ := rest a stores
    refine ⟨made ++ later,?_,account'.after lasting account.granted⟩
    change (next a stores).stores.dealings = _
    rw [grown',grown,List.append_assoc]

theorem accounts_check {result : Except Failure α} {next : α → Watched σ → Traffic (Watched σ) β}
    (failed : ∀ failure, result = .error failure → lapse [] failure)
    (rest : ∀ a, result = .ok a → (next a s).Accounts location lapse s) :
    ((ofExcept result s).bind next).Accounts location lapse s := by
  cases result with
  | error failure =>
    exact ⟨[],(List.append_nil _).symm,.inl ⟨rfl,fun other same => by
      cases same; exact failed _ rfl⟩⟩
  | ok a =>
    obtain ⟨made,grown,account⟩ := rest a rfl
    exact ⟨made,grown,account⟩

theorem accounts_ask [Database σ] {request : Request} {f : Failure → Failure}
    {next : Reply → Watched σ → Traffic (Watched σ) β}
    (handed : ∀ failure, f failure = request.handed location failure)
    (rest : ∀ reply s', (next reply s').Accounts location
      (fun later => lapse ((request,.ok reply) :: later)) s') :
    (((dealing request s).mapFailure f).bind next).Accounts location lapse s := by
  have recorded : (dealing request s).stores.dealings =
      s.dealings ++ [(request,(Database.answer request s.stores).1)] := rfl
  have result : (dealing request s).result =
      (Database.answer request s.stores).1.mapError Fault.failure := rfl
  cases answered : (Database.answer request s.stores).1 with
  | error fault =>
    rw [answered] at recorded result
    refine ⟨[(request,.error fault)],?_,.inr ⟨request,fault,rfl,?_⟩⟩
    · simp [Traffic.bind,mapFailure,result,recorded]
    · simp [Traffic.bind,mapFailure,result,handed]
  | ok reply =>
    rw [answered] at recorded result
    obtain ⟨later,grown,account⟩ := rest reply (dealing request s).stores
    refine ⟨(request,.ok reply) :: later,?_,?_⟩
    · simp only [Traffic.bind,mapFailure,result,mapError_ok,grown,recorded]
      simp
    · simp only [Traffic.bind,mapFailure,result,mapError_ok]
      exact account

/-- A request whose failure is handed on as it is. -/
theorem accounts_request [Database σ] {request : Request}
    {next : Reply → Watched σ → Traffic (Watched σ) β}
    (handed : ∀ failure, request.handed location failure = failure)
    (rest : ∀ reply s', (next reply s').Accounts location
      (fun later => lapse ((request,.ok reply) :: later)) s') :
    ((dealing request s).bind next).Accounts location lapse s := by
  rw [← mapFailure_id (dealing request s)]
  exact accounts_ask (fun failure => (handed failure).symm) rest

theorem accounts_dealing [Database σ] {request : Request}
    (handed : ∀ failure, request.handed location failure = failure) :
    (dealing request s).Accounts location lapse s := by
  refine ⟨[(request,(Database.answer request s.stores).1)],rfl,?_⟩
  have result : (dealing request s).result =
      (Database.answer request s.stores).1.mapError Fault.failure := rfl
  rw [result]
  cases (Database.answer request s.stores).1 with
  | ok reply => exact .inl ⟨rfl,nofun⟩
  | error fault => exact .inr ⟨request,fault,rfl,by rw [mapError_error,handed]⟩

end Traffic

theorem Lasting.cons {lapse : List Dealing → Failure → Prop} (lasting : Lasting lapse)
    (d : Dealing) : Lasting fun later => lapse (d :: later) :=
  fun _ _ failure within => lasting _ _ failure (List.cons_subset_cons d within)

/-- The lapses of a step: a row that cannot be converted, and a count that cannot be booked. -/
structure Step.Lapses (step : Step) (lapse : List Dealing → Failure → Prop) : Prop where
  row : ∀ (reply : Reply) row failure, row ∈ reply.rows → step.convert row = .error failure →
    lapse [(.execute .legacy step.cursor step.query step.parameters,.ok reply)] failure
  count : ∀ (read : Nat) rows (reply : Reply) failure, rows.length ≤ read →
    Step.booked (step.tally read (Insert.written rows.length reply.count)) = .error failure →
      lapse [(.insert step.insert.sql rows,.ok reply)] failure

/-- The lapses of the three steps; for the events there is the watermark besides. -/
structure Lapses (options : Options) (lapse : List Dealing → Failure → Prop) : Prop where
  lasting : Lasting lapse
  rooms : (Step.rooms options).Lapses lapse
  adjustments : Step.adjustments.Lapses lapse
  watermark : ∀ (reply : Reply) failure, watermarkOf reply.one = .error failure →
    lapse [(.execute .target "" watermarkQuery .null,.ok reply)] failure
  message : ∀ (reply : Reply) watermark failure, watermarkOf reply.one = .ok watermark →
    watermarkMessage watermark options.watermarkMode = .error failure →
      lapse [(.execute .target "" watermarkQuery .null,.ok reply)] failure
  events : ∀ watermark, (Step.events options watermark).Lapses lapse

theorem Step.Lapses.cons {step : Step} {lapse : List Dealing → Failure → Prop}
    (lasting : Lasting lapse) (lapses : step.Lapses lapse) (d : Dealing) :
    step.Lapses fun later => lapse (d :: later) where
  row reply row failure member failed :=
    lasting _ _ _ (List.subset_cons_self d _) (lapses.row reply row failure member failed)
  count read rows reply failure fewer failed :=
    lasting _ _ _ (List.subset_cons_self d _) (lapses.count read rows reply failure fewer failed)

theorem Step.converted_failure {step : Step} {rows : List Row} {failure : Failure}
    (failed : step.converted rows = .error failure) :
    ∃ row ∈ rows, step.convert row = .error failure := by
  induction rows with
  | nil => cases failed
  | cons first rest ih =>
    unfold converted at failed
    cases head : step.convert first with
    | error cause =>
      rw [head] at failed
      cases failed
      exact ⟨first,.head _,head⟩
    | ok found =>
      rw [head] at failed
      have later : step.converted rest = .error failure := by
        cases found with
        | none => exact failed
        | some parameters =>
          cases others : step.converted rest with
          | error cause => simpa [others,Except.map] using failed
          | ok made => simp [others,Except.map] at failed
      obtain ⟨row,member,same⟩ := ih later
      exact ⟨row,.tail _ member,same⟩

section Steps

variable {σ : Type} [Database σ] {location : String} {lapse : List Dealing → Failure → Prop}
  {s : Watched σ} {step : Step} {options : Options}

theorem Insert.put_cons (insert : Insert) (row : Parameters) (rest : List Parameters) (s : σ) :
    insert.put (row :: rest) s = ((dealing (.insert insert.sql (row :: rest)) s).mapFailure
      (Failure.classified (.batchRefused (row :: rest).length insert.table))).bind fun reply =>
        .pure (Insert.written (row :: rest).length reply.count) := by
  unfold Insert.put dealing
  cases answered : (Database.answer (.insert insert.sql (row :: rest)) s).1 <;>
    simp [answered,Traffic.mapFailure,Traffic.bind,Traffic.pure,writesOf,
      Failure.classified]

theorem Step.pourBatch_accounts (known : step.insert ∈ inserts) (fits : step.Fits)
    {batch : List Row}
    (rows : ∀ row ∈ batch, ∀ failure, step.convert row = .error failure → lapse [] failure)
    (counts : ∀ (read : Nat) rows (reply : Reply) failure, rows.length ≤ read →
      Step.booked (step.tally read (Insert.written rows.length reply.count)) = .error failure →
        lapse [(.insert step.insert.sql rows,.ok reply)] failure) :
    (step.pourBatch batch s).Accounts location lapse s := by
  unfold Step.pourBatch
  refine Traffic.accounts_check (fun failure failed => ?_) fun made converted => ?_
  · obtain ⟨row,member,same⟩ := Step.converted_failure failed
    exact rows row member failure same
  · have fewer := step.converted_length converted
    cases made with
    | nil =>
      have booked := fits batch.length 0 (Nat.zero_le _)
      simp only [Insert.put,Traffic.pure_bind,booked]
      exact Traffic.accounts_pure 0
    | cons row rest =>
      rw [Insert.put_cons,Traffic.bind_assoc]
      refine Traffic.accounts_ask (fun failure => ?_) fun reply s' => ?_
      · simp only [Request.handed,tableOf_sql known]
      · rw [Traffic.pure_bind]
        exact Traffic.accounts_check (fun failure failed => counts _ _ reply failure fewer failed)
          fun _ _ => Traffic.accounts_pure _

theorem Step.drain_accounts (lasting : Lasting lapse) (known : step.insert ∈ inserts)
    (fits : step.Fits) {batches : List (List Row)} {written : Nat}
    (rows : ∀ row ∈ batches.flatten, ∀ failure, step.convert row = .error failure →
      lapse [] failure)
    (counts : ∀ (read : Nat) rows (reply : Reply) failure, rows.length ≤ read →
      Step.booked (step.tally read (Insert.written rows.length reply.count)) = .error failure →
        lapse [(.insert step.insert.sql rows,.ok reply)] failure) :
    (step.drain options written batches s).Accounts location lapse s := by
  induction batches generalizing written s lapse with
  | nil => exact Traffic.accounts_ask (fun _ => rfl) fun _ _ => Traffic.accounts_pure _
  | cons batch rest ih =>
    have weaker (d : Dealing) {made : List Dealing} {failure : Failure}
        (lapsed : lapse made failure) : lapse (d :: made) failure :=
      lasting _ _ _ (List.subset_cons_self d made) lapsed
    refine Traffic.accounts_ask (fun _ => rfl) fun reply s' => ?_
    refine Traffic.Accounts.bind (lasting.cons _) ?_ fun count s' => ?_
    · refine Step.pourBatch_accounts known fits (fun row member failure failed => ?_)
        fun read rows reply failure fewer failed => weaker _ (counts read rows reply failure fewer failed)
      exact weaker _ (rows row (by simp [member]) failure failed)
    · refine ih (lasting.cons _) (fun row member failure failed => ?_)
        fun read rows reply failure fewer failed => weaker _ (counts read rows reply failure fewer failed)
      exact weaker _ (rows row (List.mem_append_right _ member) failure failed)

theorem Step.passage_accounts (lasting : Lasting lapse) (known : step.insert ∈ inserts)
    (fits : step.Fits) (lapses : step.Lapses lapse) :
    (step.passage options true s).Accounts location lapse s := by
  refine Traffic.accounts_ask (fun _ => rfl) fun reply s' => ?_
  refine Step.drain_accounts (lasting.cons _) known fits (fun row member failure failed => ?_)
    fun read rows answer failure fewer failed => ?_
  · rw [batches_flatten options.batchSize_pos] at member
    exact lapses.row reply row failure member failed
  · exact lasting _ _ _ (List.subset_cons_self _ _) (lapses.count read rows answer failure fewer failed)

theorem stepsPassage_accounts (lapses : Lapses options lapse) :
    (stepsPassage options true s).Accounts location lapse s := by
  have events (s : Watched σ) : (eventsPassage options true s).Accounts location lapse s := by
    unfold eventsPassage
    refine Traffic.accounts_request (fun _ => rfl) fun reply s' => ?_
    refine Traffic.accounts_check (fun failure failed => lapses.watermark reply failure failed)
      fun watermark read => ?_
    refine Traffic.accounts_check
      (fun failure failed => lapses.message reply watermark failure read failed) fun _ _ => ?_
    exact Step.passage_accounts (lapses.lasting.cons _) (eventInsert_known options)
      (Step.events_fits options watermark) ((lapses.events watermark).cons lapses.lasting _)
  exact (Step.passage_accounts lapses.lasting rooms_known (Step.rooms_fits options) lapses.rooms).bind
    lapses.lasting fun _ s' => (Step.passage_accounts lapses.lasting adjustments_known
      Step.adjustments_fits lapses.adjustments).bind lapses.lasting fun _ s' =>
        (events s').bind lapses.lasting fun _ _ => Traffic.accounts_pure ()

end Steps

/-- A request that closes a session. -/
def Store.Request.isClose : Request → Bool
  | .close _ => true
  | _ => false

/-- A refusal that a run makes nothing of: the legacy database fails to close its session. -/
def isLenient : Request × Fault → Bool
  | (.close .legacy,fault) => fault.failure.isDatabase
  | _ => false

/-- Dealings of a body and of the closing of sessions behind it. The body decides on the result,
unless closing is refused in a way that something is made of. A demand to roll back may go no
further. -/
structure Concluded (location : String) (lapse : List Dealing → Failure → Prop)
    (body closes : List Dealing) (left result : Except Failure Unit) : Prop where
  account : Accounted location lapse body left
  closing : ∀ d ∈ closes, d.1.isClose = true
  spared : (∀ refusal ∈ refusals closes, isLenient refusal = true) →
    FailsOnly (fun failure => failure.isRollback = false) left → result = left
  failed : ∀ failure, result = .error failure →
    left = .error failure ∨ ∃ refusal ∈ refusals closes, failure = refusal.2.failure

def Traffic.Concludes {σ : Type} (location : String) (lapse : List Dealing → Failure → Prop)
    (s : Watched σ) (t : Traffic (Watched σ) Unit) : Prop :=
  ∃ body closes left, t.stores.dealings = s.dealings ++ (body ++ closes) ∧
    Concluded location lapse body closes left t.result

section Sessions

variable {σ : Type} [Database σ] {location : String} {lapse : List Dealing → Failure → Prop}
  {s : Watched σ} {t : Traffic (Watched σ) Unit}

namespace Traffic

omit [Database σ] in
theorem Accounts.concludes (account : t.Accounts location lapse s) :
    t.Concludes location lapse s := by
  obtain ⟨made,grown,accounted⟩ := account
  refine ⟨made,[],t.result,by simp [grown],accounted,fun d member => ?_,fun _ _ => rfl,
    fun _ failed => .inl failed⟩
  cases member

omit [Database σ] in
/-- A part whose demands to roll back go no further. -/
theorem concludes_catching {α : Type} {first : Traffic (Watched σ) α}
    {next : α → Watched σ → Traffic (Watched σ) Unit}
    (whole : (first.bind next).Accounts location lapse s) :
    (first.catching Migration.passOn next).Concludes location lapse s := by
  obtain ⟨made,grown,accounted⟩ := whole
  rw [← catching_stores first Migration.passOn next] at grown
  refine ⟨made,[],(first.bind next).result,by simp [grown],accounted,fun d member => ?_,
    fun _ undemanded => ?_,fun failure failed => .inl ?_⟩
  · cases member
  · cases left : first.result with
    | ok a => simp [Traffic.catching,Traffic.bind,left]
    | error failure =>
      have stands := undemanded failure (by simp [Traffic.bind,left])
      simp [Traffic.catching,Traffic.bind,left,Migration.passOn,stands]
  · cases left : first.result with
    | ok a => simpa [Traffic.catching,Traffic.bind,left] using failed
    | error cause =>
      cases stands : cause.isRollback with
      | true => simp [Traffic.catching,left,Migration.passOn,stands] at failed
      | false => simpa [Traffic.catching,Traffic.bind,left,Migration.passOn,stands] using failed

omit [Database σ] in
theorem Concludes.after {α : Type} {first : Traffic (Watched σ) α}
    {next : α → Watched σ → Traffic (Watched σ) Unit} (lasting : Lasting lapse)
    (head : first.Accounts location lapse s)
    (rest : ∀ a s', (next a s').Concludes location lapse s') :
    (first.bind next).Concludes location lapse s := by
  obtain ⟨made,grown,account⟩ := head
  obtain ⟨result,stores,writes⟩ := first
  cases result with
  | error failure => exact Accounts.concludes ⟨made,grown,account.error⟩
  | ok a =>
    obtain ⟨body,closes,left,grown',whole⟩ := rest a stores
    refine ⟨made ++ body,closes,left,?_,whole.account.after lasting account.granted,whole.closing,
      whole.spared,whole.failed⟩
    change (next a stores).stores.dealings = _
    rw [grown',grown]
    simp

/-- Closing a session adds one dealing; what the clean-up makes of it must be the failure of its
refusal, and nothing where that is let pass. -/
theorem Concludes.closing {cleanup : Watched σ → Traffic (Watched σ) Unit} (side : Side)
    (body : t.Concludes location lapse s)
    (stores : ∀ s, (cleanup s).stores = (dealing (.close side) s).stores)
    (spared : ∀ s : Watched σ, (∀ refusal ∈ refusals
      [(.close side,(Database.answer (.close side) s.stores).1)], isLenient refusal = true) →
        (cleanup s).result = .ok ())
    (failed : ∀ (s : Watched σ) failure, (cleanup s).result = .error failure → ∃ refusal ∈ refusals
      [(.close side,(Database.answer (.close side) s.stores).1)], failure = refusal.2.failure) :
    (t.ensuring cleanup).Concludes location lapse s := by
  obtain ⟨made,closes,left,grown,whole⟩ := body
  refine ⟨made,closes ++ [(.close side,(Database.answer (.close side) t.stores.stores).1)],left,
    ?_,whole.account,fun d member => ?_,fun lenient undemanded => ?_,fun failure same => ?_⟩
  · change (cleanup t.stores).stores.dealings = _
    have recorded : (dealing (.close side) t.stores).stores.dealings = t.stores.dealings ++
      [(.close side,(Database.answer (.close side) t.stores.stores).1)] := rfl
    rw [stores,recorded,grown]
    simp
  · rcases List.mem_append.mp member with before | last
    · exact whole.closing d before
    · obtain rfl := List.mem_singleton.mp last
      rfl
  · rw [refusals_append] at lenient
    have result := whole.spared (fun refusal member => lenient refusal
      (List.mem_append_left _ member)) undemanded
    have cleaned := spared t.stores fun refusal member =>
      lenient refusal (List.mem_append_right _ member)
    simp [Traffic.ensuring,cleaned,Except.bind,result]
  · rw [refusals_append]
    cases cleaned : (cleanup t.stores).result with
    | error cause =>
      have same : cause = failure := by
        simpa [Traffic.ensuring,cleaned,Except.bind] using same
      obtain ⟨refusal,member,told⟩ := failed t.stores cause cleaned
      exact .inr ⟨refusal,List.mem_append_right _ member,same ▸ told⟩
    | ok _ =>
      have same : t.result = .error failure := by
        simpa [Traffic.ensuring,cleaned,Except.bind] using same
      rcases whole.failed failure same with left | ⟨refusal,member,told⟩
      · exact .inl left
      · exact .inr ⟨refusal,List.mem_append_left _ member,told⟩

end Traffic

namespace Migration

variable {settings : Settings}

theorem transactionPassage_concludes (lapses : Lapses settings.options lapse) (dryRun : Bool) :
    (transactionPassage (stepsPassage settings.options true) dryRun s).Concludes location lapse s := by
  refine Traffic.Concludes.after lapses.lasting (Traffic.accounts_dealing fun _ => rfl)
    fun _ s' => Traffic.concludes_catching ?_
  refine (stepsPassage_accounts lapses).bind lapses.lasting fun _ s' => ?_
  cases dryRun with
  | true => exact Traffic.accounts_pure ()
  | false =>
    simp only [Bool.false_eq_true,if_false]
    exact (Traffic.accounts_dealing fun _ => rfl).bind lapses.lasting fun _ _ =>
      Traffic.accounts_pure ()

/-- What becomes of a request that closes a session. -/
theorem closing_result (side : Side) (s : Watched σ) :
    (dealing (.close side) s).result =
      (Database.answer (.close side) s.stores).1.mapError Fault.failure := rfl

theorem closePassage_concludes {t : Traffic (Watched σ) Unit}
    (body : t.Concludes location lapse s) : (t.ensuring closePassage).Concludes location lapse s := by
  have result (s : Watched σ) : (closePassage s).result =
      ((Database.answer (.close .target) s.stores).1.mapError Fault.failure).map fun _ => () := by
    unfold closePassage Traffic.bind
    rw [closing_result]
    cases (Database.answer (.close .target) s.stores).1 <;> rfl
  refine body.closing .target (fun s => ?_) (fun s lenient => ?_) fun s failure failed => ?_
  · unfold closePassage Traffic.bind
    rw [closing_result]
    cases (Database.answer (.close .target) s.stores).1 <;> rfl
  · rw [result]
    cases answered : (Database.answer (.close .target) s.stores).1 with
    | ok reply => rfl
    | error fault =>
      rw [answered] at lenient
      cases lenient _ (.head _)
  · rw [result] at failed
    cases answered : (Database.answer (.close .target) s.stores).1 with
    | ok reply => simp [answered,Except.map] at failed
    | error fault =>
      have same : fault.failure = failure := by simpa [answered,Except.map] using failed
      exact ⟨_,.head _,same.symm⟩

theorem releasePassage_concludes {t : Traffic (Watched σ) Unit}
    (body : t.Concludes location lapse s) :
    (t.ensuring releasePassage).Concludes location lapse s := by
  refine body.closing .legacy (fun _ => rfl) (fun s lenient => ?_) fun s failure failed => ?_
  · unfold releasePassage
    rw [closing_result]
    cases answered : (Database.answer (.close .legacy) s.stores).1 with
    | ok reply => rfl
    | error fault =>
      rw [answered] at lenient
      have database : fault.failure.isDatabase = true := lenient _ (.head _)
      simp [database]
  · unfold releasePassage at failed
    rw [closing_result] at failed
    cases answered : (Database.answer (.close .legacy) s.stores).1 with
    | ok reply => simp [answered] at failed
    | error fault =>
      cases database : fault.failure.isDatabase with
      | true => simp [answered,database] at failed
      | false =>
        have same : fault.failure = failure := by
          simpa [answered,database] using failed
        exact ⟨_,.head _,same.symm⟩

/-- The dealings of a session conclude it. -/
theorem sessionPassage_concludes (lapses : Lapses settings.options lapse) (linkOpen dryRun : Bool) :
    (sessionPassage settings linkOpen dryRun s).Concludes settings.legacy.location lapse s := by
  have acquired : (acquirePassage settings.legacy linkOpen s).Accounts settings.legacy.location
      lapse s := by
    cases linkOpen with
    | true => exact Traffic.accounts_pure ()
    | false => exact Traffic.accounts_ask (fun _ => rfl) fun _ _ => Traffic.accounts_pure ()
  have opened (s : Watched σ) : (openPassage settings s).Accounts settings.legacy.location lapse s :=
    Traffic.accounts_ask (fun _ => rfl) fun _ _ => Traffic.accounts_pure ()
  exact Traffic.Concludes.after lapses.lasting acquired fun _ s => releasePassage_concludes
    (Traffic.Concludes.after lapses.lasting (opened s) fun _ s =>
      closePassage_concludes (transactionPassage_concludes lapses dryRun))

variable {w : World σ}

theorem dealings_conclude (ready : Ready settings) (lapses : Lapses settings.options lapse) :
    ∃ body closes left, dealings settings w = body ++ closes ∧
      Concluded settings.legacy.location lapse body closes left
        (sessionPassage settings w.linkOpen w.state.dryRun w.stores).result := by
  have concludes := sessionPassage_concludes (s := (watched w).stores) lapses w.linkOpen
    w.state.dryRun
  have mirrors := sessionPassage_mirrors (s := (watched w).stores) settings w.linkOpen
    w.state.dryRun
  obtain ⟨body,closes,left,grown,whole⟩ := concludes
  refine ⟨body,closes,left,?_,?_⟩
  · rw [dealings,migrate_stores ready]
    exact grown
  · rw [show sessionPassage settings w.linkOpen w.state.dryRun w.stores = _ from mirrors]
    exact whole

end Migration

end Sessions

end RoomTransfer
