/-
What an operation comes to.

Whichever way an operation takes, the same statement is sent for it, if there is one, and
its result is read off the verdict of the server (`Operation.ComesTo`).  Only two things may
come between: there is no connection to be had (`Unconnected`), or the transaction around
the operation can not be committed (`Uncommitted`).  So the ways agree
(`Session.ways_agree`).

Where a result is an outcome, it is of the kind that the operation asks for, and a record in
it is the one that was asked for (`Operation.Fits`).  So no typed call is ever surprised by
what a session answers.
-/
import Demarcation.Proofs.TypedCalls
import Demarcation.Proofs.Ways

namespace Demarcation

/-! ## The verdict and the result -/

namespace Operation

open Postgres

/-- The statements of an operation: one, or none. -/
def sends (operation : Operation) : List Statement :=
  match operation.statement? with
  | .ok (some statement) => [statement]
  | _ => []

/-- What the operation makes of the verdicts on its statements. -/
inductive ComesTo (operation : Operation) :
    List (Statement × Except DatabaseFailure ServerAnswer) → Except Failure Outcome → Prop where
  | unnamed {failure : Failure} (sends : operation.statement? = .error failure) :
      ComesTo operation [] (.error failure)
  | unsent (sends : operation.statement? = .ok none) : ComesTo operation [] (.ok .unit)
  | answered {statement : Statement} (sends : operation.statement? = .ok (some statement))
      (verdict : Except DatabaseFailure ServerAnswer) :
      ComesTo operation [(statement, verdict)] (operation.conclude verdict)

/-- The verdicts determine the result. -/
theorem ComesTo.unique {operation : Operation} {r r' : Except Failure Outcome}
    {verdicts : List (Statement × Except DatabaseFailure ServerAnswer)}
    (h : operation.ComesTo verdicts r) (h' : operation.ComesTo verdicts r') : r = r' := by
  cases h with
  | unnamed hsends =>
      cases h' with
      | unnamed hsends' => rw [hsends] at hsends'; cases hsends'; rfl
      | unsent hsends' => rw [hsends] at hsends'; cases hsends'
  | unsent hsends =>
      cases h' with
      | unnamed hsends' => rw [hsends] at hsends'; cases hsends'
      | unsent => rfl
  | answered =>
      cases h' with
      | answered => rfl

/-- The outcome is of the kind that the operation asks for, and a record in it is the one
that was asked for. -/
inductive Fits : Operation → Outcome → Prop where
  | found {key : EntityKey} {record : Option Record}
      (same : ∀ found, record = some found → found.key = key) : Fits (.find key) (.found record)
  | contained (key : EntityKey) (present : Bool) : Fits (.contains key) (.contains present)
  | counted (sql : String) (count : Nat) : Fits (.nativeQuery sql) (.rows count)
  | persisted (record : Record) : Fits (.persist record) .unit
  | merged (record : Record) : Fits (.merge record) (.merged record)
  | removed (key : EntityKey) : Fits (.remove key) .unit
  | refreshed {record : Record} : Fits (.refresh record.key) (.found (some record))
  | flushed : Fits .flush .unit
  | joined : Fits .joinTransaction .unit

section Fits

variable {operation : Operation} {outcome : Outcome} {key : EntityKey} {answer : ServerAnswer}

theorem Fits.payload {outcome : Outcome} (h : operation.Fits outcome) :
    ∃ payload, operation.payload? outcome = some payload := by
  cases h <;> exact ⟨_, rfl⟩

theorem key_of_recordIn {record : Record} (h : recordIn key answer = .ok (some record)) :
    record.key = key := by
  unfold recordIn at h
  split at h
  · cases h
  · split at h <;> cases h
    rfl

theorem recordIn_error {failure : Failure} (h : recordIn key answer = .error failure) :
    ∃ cause, failure = .database cause := by
  unfold recordIn at h
  split at h
  · cases h
  · split at h <;> cases h
    exact ⟨_, rfl⟩

theorem fits_of_outcome (h : operation.outcome answer = .ok outcome) :
    operation.Fits outcome := by
  cases operation with
  | find key =>
      simp only [Operation.outcome] at h
      cases hrecord : recordIn key answer with
      | error => rw [hrecord] at h; cases h
      | ok record =>
          rw [hrecord] at h
          cases h
          refine .found fun found hfound => ?_
          rw [hfound] at hrecord
          exact key_of_recordIn hrecord
  | contains key =>
      obtain ⟨record, rfl⟩ := exists_of_map_ok h
      exact .contained key record.isSome
  | refresh key =>
      simp only [Operation.outcome] at h
      cases hrecord : recordIn key answer with
      | error => rw [hrecord] at h; cases h
      | ok record =>
          rw [hrecord] at h
          cases record with
          | none => cases h
          | some record =>
              cases h
              obtain rfl := key_of_recordIn hrecord
              exact .refreshed
  | nativeQuery sql => cases h; exact .counted sql answer.affected
  | persist record => cases h; exact .persisted record
  | merge record => cases h; exact .merged record
  | remove key => cases h; exact .removed key
  | flush => cases h; exact .flushed
  | joinTransaction => cases h; exact .joined

theorem ComesTo.fits {verdicts : List (Statement × Except DatabaseFailure ServerAnswer)}
    (h : operation.ComesTo verdicts (.ok outcome)) : operation.Fits outcome := by
  -- What is concluded from a verdict is no constructor, so the result has to be a variable.
  generalize hr : (Except.ok outcome : Except Failure Outcome) = r at h
  cases h with
  | unnamed => cases hr
  | unsent hsends =>
      cases hr
      cases operation with
      | flush => exact .flushed
      | joinTransaction => exact .joined
      | nativeQuery => cases hsends
      | find | contains | refresh | persist | merge | remove =>
          obtain ⟨_, hsome⟩ := exists_of_map_ok hsends
          cases hsome
  | answered hsends verdict =>
      cases verdict with
      | error => cases hr
      | ok answer => exact fits_of_outcome hr.symm

theorem statement?_error {failure : Failure} (h : operation.statement? = .error failure) :
    ∃ entity, failure = .invalidIdentifier entity := by
  cases operation with
  | flush | joinTransaction | nativeQuery => cases h
  | find | contains | refresh | persist | merge | remove =>
      simp only [statement?, TableName.ofEntity] at h
      split at h <;> cases h
      exact ⟨_, rfl⟩

theorem outcome_error {failure : Failure} (h : operation.outcome answer = .error failure) :
    (∃ cause, failure = .database cause) ∨ ∃ key, failure = .entityNotFound key := by
  cases operation with
  | find key | contains key =>
      simp only [Operation.outcome] at h
      cases hrecord : recordIn key answer with
      | error =>
          rw [hrecord] at h
          cases h
          exact Or.inl (recordIn_error hrecord)
      | ok => rw [hrecord] at h; cases h
  | refresh key =>
      simp only [Operation.outcome] at h
      rcases hrecord : recordIn key answer with _ | _ | _ <;> rw [hrecord] at h <;> cases h
      · exact Or.inl (recordIn_error hrecord)
      · exact Or.inr ⟨key, rfl⟩
  | nativeQuery | persist | merge | remove | flush | joinTransaction => cases h

/-- An operation never complains of its own outcome. -/
theorem ComesTo.ne_unexpected {verdicts : List (Statement × Except DatabaseFailure ServerAnswer)}
    {failure : Failure} (h : operation.ComesTo verdicts (.error failure)) (name : String) :
    failure ≠ .unexpectedOutcome name := by
  generalize hr : (Except.error failure : Except Failure Outcome) = r at h
  rintro rfl
  cases h with
  | unsent => cases hr
  | unnamed hsends =>
      cases hr
      obtain ⟨_, hfailure⟩ := statement?_error hsends
      cases hfailure
  | answered hsends verdict =>
      cases verdict with
      | error => cases hr
      | ok answer =>
          rcases outcome_error hr.symm with ⟨_, hfailure⟩ | ⟨_, hfailure⟩ <;> cases hfailure

end Fits

end Operation

namespace Postgres.Session

variable {operation : Operation} {c : Connection} {way : Way} {ds es : List SessionDeed}
  {v : Option (Except Failure Outcome)}

/-! ## Running the operation -/

/-- The result is that the closing `COMMIT` has failed. -/
def Uncommitted (deeds : List SessionDeed) (result : Except Failure Outcome) : Prop :=
  ∃ connection cause, .heard (.send connection .commit) (.error cause) ∈ deeds ∧
    result = .error (.database cause)

theorem Uncommitted.mono {r : Except Failure Outcome} (h : Uncommitted ds r) (hsub : ds ⊆ es) :
    Uncommitted es r := by
  obtain ⟨c, cause, hmem, hr⟩ := h
  exact ⟨c, cause, hsub hmem, hr⟩

theorem own_of_runOn (h : (runOn c operation).Traces ds v) :
    ownStatements ds = operation.sends ∧
      ∀ r, v = some r → operation.ComesTo (ownVerdicts ds) r := by
  rw [runOn_eq] at h
  unfold Operation.sends
  cases hsends : operation.statement? with
  | error failure =>
      rw [hsends] at h
      obtain ⟨rfl, rfl⟩ := Task.traces_done.mp h
      refine ⟨rfl, ?_⟩
      rintro _ ⟨⟩
      exact .unnamed hsends
  | ok statement? =>
      cases statement? with
      | none =>
          rw [hsends] at h
          obtain ⟨rfl, rfl⟩ := Task.traces_done.mp h
          refine ⟨rfl, ?_⟩
          rintro _ ⟨⟩
          exact .unsent hsends
      | some st =>
          rw [hsends] at h
          have hown : st.isControl = false := isControl_of_sends hsends
          rcases Task.traces_bind_done (fun _ => rfl) |>.mp h with ⟨verdict?, hsent, rfl⟩
          rcases Task.traces_call.mp hsent with ⟨verdict, rfl, rfl⟩ | ⟨rfl, rfl⟩
          · refine ⟨ownStatements_heard hown verdict, ?_⟩
            rintro _ ⟨⟩
            rw [ownVerdicts_heard hown]
            exact .answered hsends verdict
          · refine ⟨ownStatements_lost hown, ?_⟩
            rintro _ ⟨⟩

theorem sendsOnly_settle (result : Except Failure Outcome) :
    SendsOnly (· = .commit) (way.settle c result) := by
  cases way with
  | inTransaction | plain => exact (sendsOnly_ofAction _).bind fun _ => sendsOnly_done _
  | readOnly =>
      cases result with
      | error => exact (sendsOnly_ofAction _).bind fun _ => sendsOnly_done _
      | ok outcome =>
          have hend : SendsOnly (· = .commit) (endTransaction c .commit) := by
            have hcommit : SendsOnly (· = .commit) (send c .commit) := sendsOnly_send rfl
            refine (hcommit.guarded _).bind fun ended => ?_
            cases ended <;> exact (sendsOnly_ofAction _).bind fun _ => sendsOnly_done _
          refine hend.bind fun ended => ?_
          cases ended <;> exact sendsOnly_done _

theorem own_of_settle {result : Except Failure Outcome} (h : (way.settle c result).Traces ds v) :
    ownStatements ds = [] ∧ ownVerdicts ds = [] :=
  own_of_control (by rintro _ rfl; rfl) (sendsOnly_settle result ds v h)

/-- The result is kept, unless there is a transaction to commit and this fails. -/
theorem ensures_settle (result : Except Failure Outcome) :
    Ensures (fun ds r => r = result ∨ Uncommitted ds r) (way.settle c result) := by
  cases way with
  | inTransaction | plain =>
      exact (ensures_true _).bind fun _ _ _ => ensures_done (Or.inl rfl)
  | readOnly =>
      cases result with
      | error => exact (ensures_true _).bind fun _ _ _ => ensures_done (Or.inl rfl)
      | ok outcome =>
          have hend : Ensures (fun ds r => ∀ cause, r = .error cause →
              Uncommitted ds (.error (.database cause))) (endTransaction c .commit) := by
            refine (ensures_call _).bind fun ended _ hended => ?_
            cases ended with
            | error cause =>
                refine (ensures_true _).bind fun _ _ _ => ensures_done ?_
                rintro _ ⟨⟩
                exact ⟨c, cause, by simp [hended], rfl⟩
            | ok =>
                refine (ensures_true _).bind fun _ _ _ => ensures_done ?_
                rintro _ ⟨⟩
          refine hend.bind fun ended _ hended => ?_
          cases ended with
          | error cause =>
              exact ensures_done (Or.inr ((hended cause rfl).mono fun d hd => by simp [hd]))
          | ok => exact ensures_done (Or.inl rfl)

/-- Whatever the way, it is the operation that is sent, and its result comes from the
verdict; only a `COMMIT` may come between. -/
theorem own_of_use (h : (way.use c operation).Traces ds v) :
    ownStatements ds = operation.sends ∧ ∀ r, v = some r →
      operation.ComesTo (ownVerdicts ds) r ∨ Uncommitted ds r := by
  rcases Task.traces_bind.mp h with ⟨result, first, rest, rfl, hfirst, hrest⟩ | ⟨hdropped, rfl⟩
  · rcases Task.traces_guarded.mp hfirst with ⟨-, hran⟩ | ⟨hnone, -⟩
    · obtain ⟨hstatements, hverdicts⟩ := own_of_runOn hran
      obtain ⟨hsent, hjudged⟩ := own_of_settle hrest
      refine ⟨by simp [hstatements, hsent], ?_⟩
      rintro r rfl
      rcases ensures_settle result rest r hrest with rfl | huncommitted
      · exact Or.inl (by simpa [hjudged] using hverdicts r rfl)
      · exact Or.inr (huncommitted.mono fun d hd => by simp [hd])
    · cases hnone
  · rcases Task.traces_guarded.mp hdropped with ⟨hne, -⟩ | ⟨-, first, last, rfl, hfirst, hlast⟩
    · exact absurd rfl hne
    · obtain ⟨hstatements, -⟩ := own_of_runOn hfirst
      obtain ⟨hsent, -⟩ := own_of_action hlast
      refine ⟨by simp [hstatements, hsent], ?_⟩
      rintro _ ⟨⟩

/-! ## The ways agree -/

/-- The run has come to a connection in this way. -/
def Takes (way : Way) (deeds : List SessionDeed) : Prop :=
  ∃ first rest connection, deeds = first ++ rest ∧
    connect.Traces first (some (.ok (way, connection)))

theorem own_of_takes (h : (execute operation).Traces ds v) (htakes : Takes way ds) :
    ownStatements ds = operation.sends ∧ ∀ r, v = some r →
      operation.ComesTo (ownVerdicts ds) r ∨ Uncommitted ds r := by
  obtain ⟨first, rest, c, rfl, hfirst⟩ := htakes
  rw [execute_eq] at h
  have hrest := Task.traces_of_bind hfirst h
  obtain ⟨hstatements, hverdicts⟩ := own_of_use hrest
  obtain ⟨hsent, hjudged⟩ := own_of_connect hfirst
  refine ⟨by simp [hstatements, hsent], ?_⟩
  intro r hr
  rcases hverdicts r hr with hcomes | huncommitted
  · exact Or.inl (by simpa [hjudged] using hcomes)
  · exact Or.inr (huncommitted.mono fun d hd => by simp [hd])

/-- A run that comes to no connection sends nothing of the operation, and fails for want of
the connection. -/
theorem own_of_not_takes (h : (execute operation).Traces ds v) (hnone : ∀ way, ¬ Takes way ds) :
    ownStatements ds = [] ∧ ∀ r, v = some r →
      ∃ failure, r = .error failure ∧ Unconnected ds failure := by
  rw [execute_eq] at h
  rcases Task.traces_bind.mp h with ⟨reached, first, rest, rfl, hfirst, hrest⟩ | ⟨hdropped, rfl⟩
  · cases reached with
    | error failure =>
        obtain ⟨rfl, rfl⟩ := Task.traces_done.mp hrest
        rw [List.append_nil] at *
        refine ⟨(own_of_connect hfirst).1, ?_⟩
        rintro _ ⟨⟩
        exact ⟨failure, rfl, ensures_connect first _ hfirst failure rfl⟩
    | ok reached => exact absurd ⟨first, rest, reached.2, rfl, hfirst⟩ (hnone reached.1)
  · refine ⟨(own_of_connect hdropped).1, ?_⟩
    rintro _ ⟨⟩

/-- In a run that ends, the result is the one that the verdicts come to, or that of a
`COMMIT`, or there is no connection. -/
theorem result_cases {r : Except Failure Outcome} (h : (execute operation).Traces ds (some r)) :
    operation.ComesTo (ownVerdicts ds) r ∨ Uncommitted ds r ∨
      ∃ failure, r = .error failure ∧ Unconnected ds failure := by
  by_cases htakes : ∃ way, Takes way ds
  · obtain ⟨way, htakes⟩ := htakes
    rcases (own_of_takes h htakes).2 r rfl with hcomes | huncommitted
    · exact Or.inl hcomes
    · exact Or.inr (Or.inl huncommitted)
  · exact Or.inr (Or.inr ((own_of_not_takes h (not_exists.mp htakes)).2 r rfl))

theorem fits_of_execute {outcome : Outcome}
    (h : (execute operation).Traces ds (some (.ok outcome))) : operation.Fits outcome := by
  rcases result_cases h with hcomes | ⟨_, _, _, hr⟩ | ⟨_, hr, _⟩
  · exact hcomes.fits
  · cases hr
  · cases hr

theorem ne_unexpected_of_execute {name : String} :
    ¬ (execute operation).Traces ds (some (.error (.unexpectedOutcome name))) := by
  intro h
  rcases result_cases h with hcomes | ⟨_, _, _, hr⟩ | ⟨_, hr, hunconnected⟩
  · exact hcomes.ne_unexpected name rfl
  · cases hr
  · cases hr
    cases hunconnected

/-! ### Every way, with every verdict -/

/-- No `COMMIT` is refused. -/
def Committed (deeds : List SessionDeed) : Prop :=
  ∀ connection cause, .heard (.send connection .commit) (.error cause) ∉ deeds

theorem Committed.append (hds : Committed ds) (hes : Committed es) : Committed (ds ++ es) := by
  intro connection cause hmem
  rcases List.mem_append.mp hmem with hmem | hmem
  · exact hds connection cause hmem
  · exact hes connection cause hmem

theorem committed_of_connect {reached : Option (Except Failure (Way × Connection))}
    (h : connect.Traces ds reached) : Committed ds := by
  intro connection cause hmem
  rcases sendsOnly_connect ds reached h _ hmem .commit rfl with hprepares | hprepares <;>
    cases hprepares

/-- Each way can be taken. -/
theorem exists_connect (way : Way) (c : Connection) :
    ∃ ds, connect.Traces ds (some (.ok (way, c))) := by
  cases way with
  | inTransaction =>
      let session : Session := { factory := ⟨0⟩, transaction := some c, active := true }
      refine ⟨[.did .get session, .heard .unlocked (), .did .get session,
        .did (.set { session with locked := true }) (), .did .get session], ?_⟩
      exact .perform (.heard (.perform (.perform (.perform (.done _)))))
  | readOnly =>
      let session : Session := { factory := ⟨0⟩, options := { readOnly := true } }
      refine ⟨[.did .get session, .heard .unlocked (), .did .get session,
        .did (.set { session with locked := true }) (), .did .get session, .did .get session,
        .did (.set session) (), .heard .acquire (.ok c), .heard (.send c .begin) (.ok {}),
        .heard (.send c .setReadOnly) (.ok {})], ?_⟩
      exact .perform (.heard (.perform (.perform (.perform (.perform (.perform (.heard
        (.heard (.heard (.done _))))))))))
  | plain =>
      let session : Session := { factory := ⟨0⟩ }
      refine ⟨[.did .get session, .heard .unlocked (), .did .get session,
        .did (.set { session with locked := true }) (), .did .get session, .did .get session,
        .did (.set session) (), .heard .acquire (.ok c)], ?_⟩
      exact .perform (.heard (.perform (.perform (.perform (.perform (.perform (.heard
        (.done _))))))))

theorem exists_runOn (c : Connection) (operation : Operation)
    (verdict : Except DatabaseFailure ServerAnswer) :
    ∃ ds r, (runOn c operation).Traces ds (some r) ∧
      ownVerdicts ds = operation.sends.map (fun st => (st, verdict)) ∧ Committed ds := by
  rw [runOn_eq]
  unfold Operation.sends
  cases hsends : operation.statement? with
  | error failure => exact ⟨[], _, .done _, rfl, fun _ _ => List.not_mem_nil⟩
  | ok statement? =>
      cases statement? with
      | none => exact ⟨[], _, .done _, rfl, fun _ _ => List.not_mem_nil⟩
      | some st =>
          have hown : st.isControl = false := isControl_of_sends hsends
          refine ⟨[.heard (.send c st) verdict], _, .heard (.done _), ownVerdicts_heard hown verdict,
            ?_⟩
          intro connection cause hmem
          cases List.mem_singleton.mp hmem
          cases hown

theorem exists_settle (way : Way) (c : Connection) (result : Except Failure Outcome) :
    ∃ ds r, (way.settle c result).Traces ds (some r) ∧ Committed ds := by
  cases way with
  | inTransaction =>
      let session : Session := { factory := ⟨0⟩ }
      exact ⟨[.did .get session, .did (.set session) ()], result, .perform (.perform (.done _)),
        fun _ _ => by simp⟩
  | plain => exact ⟨[.did (.release c) ()], result, .perform (.done _), fun _ _ => by simp⟩
  | readOnly =>
      cases result with
      | error failure =>
          exact ⟨[.did (.discard c) ()], .error failure, .perform (.done _), fun _ _ => by simp⟩
      | ok outcome =>
          refine ⟨[.heard (.send c .commit) (.ok {}), .did (.release c) ()], .ok outcome,
            .heard (.perform (.done _)), ?_⟩
          intro connection cause hmem
          rcases List.mem_cons.mp hmem with hmem | hmem
          · cases hmem
          · cases List.mem_singleton.mp hmem

/-- Whatever the way and the verdict of the server, there is such a run. -/
theorem exists_execute (operation : Operation) (way : Way)
    (verdict : Except DatabaseFailure ServerAnswer) :
    ∃ ds r, (execute operation).Traces ds (some r) ∧ Takes way ds ∧
      ownVerdicts ds = operation.sends.map (fun st => (st, verdict)) ∧ Committed ds := by
  obtain ⟨first, hconnect⟩ := exists_connect way ⟨0⟩
  obtain ⟨ran, result, hran, hjudged, hranCommitted⟩ := exists_runOn ⟨0⟩ operation verdict
  obtain ⟨last, r, hlast, hlastCommitted⟩ := exists_settle way ⟨0⟩ result
  have huse : (way.use ⟨0⟩ operation).Traces (ran ++ last) (some r) := by
    refine Task.traces_bind.mpr (Or.inl ⟨result, ran, last, rfl, ?_, hlast⟩)
    exact Task.traces_guarded.mpr (Or.inl ⟨Option.some_ne_none _, hran⟩)
  refine ⟨first ++ (ran ++ last), r, ?_, ⟨first, ran ++ last, ⟨0⟩, rfl, hconnect⟩, ?_,
    (committed_of_connect hconnect).append (hranCommitted.append hlastCommitted)⟩
  · rw [execute_eq]
    exact Task.traces_bind.mpr (Or.inl ⟨_, first, ran ++ last, rfl, hconnect, huse⟩)
  · simp [(own_of_connect hconnect).2, hjudged, (own_of_settle hlast).2]

end Postgres.Session

/-- What is executed in these deeds is executed by sessions, in any state and with whatever
else they are asked in between. -/
def ServedBySessions {app : Jobs} (deeds : List (WorkDeed app)) : Prop :=
  ∀ h operation reply, .heard (.execute h operation) reply ∈ deeds →
    ∃ ds, (Postgres.Session.execute operation).Traces ds (some reply)

theorem Operation.interpret_ne_unexpected {operation : Operation} {r : Except Failure Outcome}
    (hfits : ∀ outcome, r = .ok outcome → operation.Fits outcome)
    (hfails : ∀ name, r ≠ .error (.unexpectedOutcome name)) (name : String) :
    operation.interpret r ≠ .error (.unexpectedOutcome name) := by
  cases r with
  | error failure =>
      intro h
      cases h
      exact hfails name rfl
  | ok outcome =>
      obtain ⟨payload, hpayload⟩ := (hfits outcome rfl).payload
      simp [Operation.interpret, hpayload]

section Served

variable {app : Jobs} {shared : SharedHandle} {cx : ContextId} {operation : Operation}
  {deeds : List (WorkDeed app)} {r : Except Failure Outcome}

/-- An operation is refused, or its result is the reply of a handle. -/
theorem SharedHandle.reply_of_invoke
    (h : (shared.invoke cx operation : Work app _).Traces deeds (some r)) :
    r = .error (.noHandleBound shared.factory) ∨
      r = .error (.transactionRequired operation.name) ∨
        ∃ handle, .heard (.execute handle operation) r ∈ deeds := by
  cases traces_invoke.mp h with
  | unbound => exact Or.inl rfl
  | @bound handle _ _ hreceives =>
      cases hreceives with
      | refused => exact Or.inr (Or.inl rfl)
      | executed _ reply => exact Or.inr (Or.inr ⟨handle, by simp⟩)

theorem SharedHandle.typed_ne_unexpected (hserved : ServedBySessions deeds) (name : String) :
    ¬ (shared.typed cx operation : Work app _).Traces deeds
      (some (.error (.unexpectedOutcome name))) := by
  intro h
  obtain ⟨r?, hinvoke, hr⟩ := traces_typed.mp h
  obtain ⟨r, rfl, hunexpected⟩ := Option.map_eq_some_iff.mp hr.symm
  refine Operation.interpret_ne_unexpected ?_ ?_ name hunexpected
  · rintro outcome rfl
    rcases reply_of_invoke hinvoke with hr | hr | ⟨handle, hreply⟩
    · cases hr
    · cases hr
    · obtain ⟨ds, hds⟩ := hserved handle operation _ hreply
      exact Postgres.Session.fits_of_execute hds
  · rintro other rfl
    rcases reply_of_invoke hinvoke with hr | hr | ⟨handle, hreply⟩
    · cases hr
    · cases hr
    · obtain ⟨ds, hds⟩ := hserved handle operation _ hreply
      exact Postgres.Session.ne_unexpected_of_execute hds

end Served

namespace Postgres.Session

/-- However two runs of an operation come to their connections, the same statement is sent
for it with the same parameters, or none.  If the server gives the same verdict on it, the
results are the same, unless one of them is that the closing `COMMIT` has failed.  A run that
comes to no connection sends nothing for the operation, and it fails because the session is
closed or because the connection, `BEGIN` or `SET TRANSACTION READ ONLY` was refused.  Every
way can be taken, with every verdict.

An outcome is of the kind that the operation asks for, with the record asked for; so a typed
call whose operation is executed by a session never finds the outcome unexpected. -/
theorem ways_agree (operation : Operation) :
    (∀ {way other ds es v w}, (execute operation).Traces ds v → Takes way ds →
      (execute operation).Traces es w → Takes other es →
      ownStatements ds = ownStatements es ∧
        ∀ r s, v = some r → w = some s → ownVerdicts ds = ownVerdicts es →
          r = s ∨ Uncommitted ds r ∨ Uncommitted es s) ∧
    (∀ {ds v}, (execute operation).Traces ds v → (∀ way, ¬ Takes way ds) →
      ownStatements ds = [] ∧ ∀ r, v = some r →
        ∃ failure, r = .error failure ∧ Unconnected ds failure) ∧
    (∀ way verdict, ∃ ds r, (execute operation).Traces ds (some r) ∧ Takes way ds ∧
      ownVerdicts ds = operation.sends.map (fun st => (st, verdict)) ∧ Committed ds) ∧
    (∀ {ds outcome}, (execute operation).Traces ds (some (.ok outcome)) →
      operation.Fits outcome) ∧
    ∀ {app : Jobs} {shared : SharedHandle} {cx : ContextId} {deeds : List (WorkDeed app)},
      ServedBySessions deeds → ∀ name, ¬ (shared.typed cx operation : Work app _).Traces deeds
        (some (.error (.unexpectedOutcome name))) := by
  refine ⟨?_, own_of_not_takes, exists_execute operation, fits_of_execute,
    SharedHandle.typed_ne_unexpected⟩
  intro way other ds es v w hds hway hes hother
  obtain ⟨hstatements, hresult⟩ := own_of_takes hds hway
  obtain ⟨hstatements', hresult'⟩ := own_of_takes hes hother
  refine ⟨hstatements.trans hstatements'.symm, ?_⟩
  intro r s hr hs hverdicts
  rcases hresult r hr with hcomes | huncommitted
  · rcases hresult' s hs with hcomes' | huncommitted
    · rw [← hverdicts] at hcomes'
      exact Or.inl (hcomes.unique hcomes')
    · exact Or.inr (Or.inr huncommitted)
  · exact Or.inr (Or.inl huncommitted)

/-- A session with a transaction on a connection. -/
def holding : Session := { factory := ⟨0⟩, transaction := some ⟨0⟩, active := true }

/-- A session that is to read only. -/
def reading : Session := { factory := ⟨0⟩, options := { readOnly := true } }

/-- Deleting in the transaction of the session; the server affects two rows. -/
def deletedInTransaction : List SessionDeed :=
  [.did .get holding, .heard .unlocked (), .did .get holding,
    .did (.set { holding with locked := true }) (), .did .get holding,
    .heard (.send ⟨0⟩ (.native "DELETE FROM users")) (.ok { affected := 2 }),
    .did .get holding, .did (.set holding) ()]

/-- The same in a read-only transaction, by a server that answers the same. -/
def deletedReadOnly : List SessionDeed :=
  [.did .get reading, .heard .unlocked (), .did .get reading,
    .did (.set { reading with locked := true }) (), .did .get reading, .did .get reading,
    .did (.set reading) (), .heard .acquire (.ok ⟨7⟩), .heard (.send ⟨7⟩ .begin) (.ok {}),
    .heard (.send ⟨7⟩ .setReadOnly) (.ok {}),
    .heard (.send ⟨7⟩ (.native "DELETE FROM users")) (.ok { affected := 2 }),
    .heard (.send ⟨7⟩ .commit) (.ok {}), .did (.release ⟨7⟩) ()]

/-- Both runs come to their connections, each in its way, and both end in the number of
rows. -/
theorem deleted_alike :
    Takes .inTransaction deletedInTransaction ∧ Takes .readOnly deletedReadOnly ∧
      ownStatements deletedInTransaction = ownStatements deletedReadOnly ∧
      ∃ r, (execute (.nativeQuery "DELETE FROM users")).Traces deletedInTransaction (some r) ∧
        (execute (.nativeQuery "DELETE FROM users")).Traces deletedReadOnly (some r) := by
  have hheld : (execute (.nativeQuery "DELETE FROM users")).Traces deletedInTransaction
      (some (.ok (.rows 2))) :=
    .perform (.heard (.perform (.perform (.perform (.heard (.perform (.perform (.done _))))))))
  have hread : (execute (.nativeQuery "DELETE FROM users")).Traces deletedReadOnly
      (some (.ok (.rows 2))) :=
    .perform (.heard (.perform (.perform (.perform (.perform (.perform (.heard (.heard (.heard
      (.heard (.heard (.perform (.done _)))))))))))))
  have hway : Takes .inTransaction deletedInTransaction :=
    ⟨deletedInTransaction.take 5, _, ⟨0⟩, (List.take_append_drop 5 _).symm,
      .perform (.heard (.perform (.perform (.perform (.done _)))))⟩
  have hother : Takes .readOnly deletedReadOnly :=
    ⟨deletedReadOnly.take 10, _, ⟨7⟩, (List.take_append_drop 10 _).symm,
      .perform (.heard (.perform (.perform (.perform (.perform (.perform (.heard (.heard (.heard
        (.done _))))))))))⟩
  obtain ⟨hstatements, hresults⟩ :=
    (ways_agree (.nativeQuery "DELETE FROM users")).1 hheld hway hread hother
  refine ⟨hway, hother, hstatements, .ok (.rows 2), hheld, ?_⟩
  rcases hresults _ _ rfl rfl rfl with hr | ⟨_, _, _, hr⟩ | ⟨_, _, _, hr⟩
  · rw [hr]
    exact hread
  · cases hr
  · cases hr

end Postgres.Session

end Demarcation
