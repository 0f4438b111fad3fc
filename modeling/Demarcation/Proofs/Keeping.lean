/-
What the server keeps.

A unit of work is completed with success once its handle has committed without an error.
The server, however, answers `COMMIT` without an error also where it has rolled the
transaction back, because a statement of it had failed.  `Line` says what becomes of the
writes that are sent on a connection: those of a transaction are kept by a `COMMIT`,
unless a statement of the transaction has failed.

So the writes of a unit of work are kept if and only if none of its statements has
failed, or there are none.  What the body makes of a failure does not matter.
-/
import Demarcation.Proofs.Serving
import Demarcation.Proofs.Visits

namespace Demarcation

open Postgres

namespace Postgres

/-! ## The server -/

namespace Statement

/-- The statement may change rows. -/
def isWrite : Statement → Bool
  | .native _ | .insert .. | .upsert .. | .delete .. => true
  | .begin | .setReadOnly | .commit | .rollback | .select .. => false

/-- The writes that a statement amounts to. -/
def written (statement : Statement) (accepted : Bool) : List Statement :=
  if accepted && statement.isWrite then [statement] else []

end Statement

/-- Where a connection is between two statements. -/
inductive Status where
  | idle
  /-- In a transaction that has made these writes. -/
  | running (writes : List Statement)
  /-- In a transaction a statement of which has failed. -/
  | aborted

/-- A connection as the server has it, with the writes that are kept for ever. -/
structure Line where
  status : Status := .idle
  stored : List Statement := []

namespace Line

/-- What becomes of a statement that the server accepts or refuses.  Ending an aborted
transaction rolls it back, by whichever statement. -/
def serve (line : Line) (statement : Statement) (accepted : Bool) : Line :=
  match line.status, statement with
  | .idle, .begin => if accepted then { line with status := .running [] } else line
  | .idle, _ => { line with stored := line.stored ++ statement.written accepted }
  | .running writes, .commit =>
    { status := .idle, stored := line.stored ++ if accepted then writes else [] }
  | .running _, .rollback | .aborted, .commit | .aborted, .rollback =>
    { line with status := .idle }
  | .running writes, _ =>
    if accepted then { line with status := .running (writes ++ statement.written true) }
    else { line with status := .aborted }
  | .aborted, _ => line

/-- The connection `c` after a further exchange. -/
def after (c : Connection) (line : Line) : Exchange → Line
  | .sent other statement verdict _ =>
    if other = c then line.serve statement verdict.isOk else line
  | .discarded other => if other = c then { line with status := .idle } else line
  | .asked _ | .released _ => line

end Line

/-- The connection `c` after these exchanges. -/
def lineOn (c : Connection) (past : List Exchange) : Line := past.foldl (Line.after c) {}

namespace Exchange

/-- The server has refused a statement. -/
def failed : Exchange → Bool
  | .sent _ _ verdict _ => !verdict.isOk
  | .asked _ | .released _ | .discarded _ => false

/-- The writes that an exchange amounts to. -/
def written : Exchange → List Statement
  | .sent _ statement verdict _ => statement.written verdict.isOk
  | .asked _ | .released _ | .discarded _ => []

/-- Nothing happens on `c`. -/
def Spares (c : Connection) : Exchange → Prop
  | .sent other _ _ _ | .discarded other => other ≠ c
  | .asked _ | .released _ => True

end Exchange

/-- The writes that have been made in these exchanges. -/
def writesOf (exchanges : List Exchange) : List Statement := exchanges.flatMap Exchange.written

section Line

variable {c : Connection} {line : Line} {e : Exchange} {es : List Exchange}
  {stored writes : List Statement}

/-! ## One transaction -/

theorem Line.after_running (he : e.Within c) :
    Line.after c ⟨.running writes, stored⟩ e =
      ⟨if e.failed then .aborted else .running (writes ++ e.written), stored⟩ := by
  cases e with
  | sent other st verdict heard =>
      obtain ⟨rfl, hst⟩ := he
      refine (if_pos rfl).trans ?_
      cases st with
      | begin | commit | rollback => cases hst
      | setReadOnly | native | select | insert | upsert | delete => cases verdict <;> rfl
  | asked | released | discarded => cases he

theorem Line.after_aborted (he : e.Within c) :
    Line.after c ⟨.aborted, stored⟩ e = ⟨.aborted, stored⟩ := by
  cases e with
  | sent other st verdict heard =>
      obtain ⟨rfl, hst⟩ := he
      refine (if_pos rfl).trans ?_
      cases st with
      | begin | commit | rollback => cases hst
      | setReadOnly | native | select | insert | upsert | delete => rfl
  | asked | released | discarded => cases he

theorem Line.foldl_aborted (hes : ∀ e ∈ es, e.Within c) :
    es.foldl (Line.after c) ⟨.aborted, stored⟩ = ⟨.aborted, stored⟩ := by
  induction es with
  | nil => rfl
  | cons e es ih =>
      obtain ⟨he, hrest⟩ := List.forall_mem_cons.mp hes
      rw [List.foldl_cons, Line.after_aborted he, ih hrest]

/-- A transaction gathers the writes of its statements, until one of them fails. -/
theorem Line.foldl_running (hes : ∀ e ∈ es, e.Within c) :
    es.foldl (Line.after c) ⟨.running writes, stored⟩ =
      ⟨if es.any Exchange.failed then .aborted else .running (writes ++ writesOf es), stored⟩ := by
  induction es generalizing writes with
  | nil => simp [writesOf]
  | cons e es ih =>
      obtain ⟨he, hrest⟩ := List.forall_mem_cons.mp hes
      rw [List.foldl_cons, Line.after_running he, List.any_cons]
      cases e.failed with
      | true => exact Line.foldl_aborted hrest
      | false =>
          refine (ih hrest).trans ?_
          rw [List.append_assoc]
          rfl

/-- A connection on which a transaction was committed: its writes are kept if none of its
statements has failed. -/
theorem Running.foldl_commit (hes : Running c es) (answer : ServerAnswer) :
    (es ++ [Exchange.sent c .commit (.ok answer) true, .released c]).foldl (Line.after c)
        ⟨.idle, stored⟩ =
      ⟨.idle, stored ++ if es.any Exchange.failed then [] else writesOf es⟩ := by
  obtain ⟨a, inside, rfl, hinside⟩ := hes
  have hbegun : Line.after c ⟨.idle, stored⟩ (.sent c .begin (.ok a) true) =
      ⟨.running [], stored⟩ := if_pos rfl
  have hcommit : ∀ line : Line, Line.after c line (.sent c .commit (.ok answer) true) =
      line.serve .commit true := fun _ => if_pos rfl
  rw [List.foldl_append]
  show Line.after c (inside.foldl (Line.after c)
      (Line.after c ⟨.idle, stored⟩ (.sent c .begin (.ok a) true)))
      (.sent c .commit (.ok answer) true) =
    ⟨.idle, stored ++ if inside.any Exchange.failed then [] else writesOf inside⟩
  rw [hbegun, Line.foldl_running hinside, hcommit]
  cases inside.any Exchange.failed with
  | true => exact congrArg (Line.mk .idle) (List.append_nil stored).symm
  | false => rfl

/-! ## Visits -/

theorem Line.foldl_spared (hes : ∀ e ∈ es, e.Spares c) : es.foldl (Line.after c) line = line := by
  induction es with
  | nil => rfl
  | cons e es ih =>
      obtain ⟨he, hrest⟩ := List.forall_mem_cons.mp hes
      have hsame : Line.after c line e = line := by
        cases e with
        | sent | discarded => exact if_neg he
        | asked | released => rfl
      rw [List.foldl_cons, hsame, ih hrest]

theorem Exchange.Within.spares {other : Connection} (he : e.Within other) (hother : other ≠ c) :
    e.Spares c := by
  cases e with
  | sent =>
      obtain ⟨rfl, -⟩ := he
      exact hother
  | asked | released | discarded => cases he

theorem Running.spares {other : Connection} (hes : Running other es) (hother : other ≠ c) :
    ∀ e ∈ es, e.Spares c := by
  obtain ⟨a, inside, rfl, hinside⟩ := hes
  refine List.forall_mem_cons.mpr ⟨trivial, List.forall_mem_cons.mpr ⟨hother, ?_⟩⟩
  exact fun e he => (hinside e he).spares hother

theorem Line.idle_of_operates (hes : ∀ e ∈ es, e.OperatesOn c) (hidle : line.status = .idle) :
    (es.foldl (Line.after c) line).status = .idle := by
  induction es generalizing line with
  | nil => exact hidle
  | cons e es ih =>
      obtain ⟨he, hrest⟩ := List.forall_mem_cons.mp hes
      refine ih hrest ?_
      obtain ⟨status, stored⟩ := line
      obtain rfl : status = .idle := hidle
      cases e with
      | sent other st verdict heard =>
          obtain ⟨rfl, hst⟩ := he
          refine (congrArg Line.status (if_pos rfl)).trans ?_
          cases st with
          | begin | setReadOnly | commit | rollback => cases hst
          | native | select | insert | upsert | delete => rfl
      | asked | released | discarded => cases he

/-- Ending a transaction leaves the connection idle, whatever has come before. -/
theorem Line.idle_of_ends {st : Statement} {ended? : Option (Except DatabaseFailure Unit)}
    (h : Session.EndsBy c st es ended?) (hst : st = .commit ∨ st = .rollback) :
    (es.foldl (Line.after c) line).status = .idle := by
  cases h with
  | dropped | refused => exact congrArg Line.status (if_pos rfl)
  | ended =>
      obtain ⟨status, stored⟩ := line
      refine (congrArg Line.status (if_pos rfl)).trans ?_
      rcases hst with rfl | rfl <;> cases status <;> rfl

/-- A visit leaves every connection idle. -/
theorem Visit.idle (h : Visit es) (hidle : line.status = .idle) :
    (es.foldl (Line.after c) line).status = .idle := by
  cases h with
  | unlent => exact hidle
  | @plain other ran hran =>
      rw [List.foldl_cons, List.foldl_append]
      show (ran.foldl (Line.after c) line).status = .idle
      rcases eq_or_ne other c with rfl | hother
      · exact Line.idle_of_operates hran hidle
      · refine (congrArg Line.status (Line.foldl_spared ?_)).trans hidle
        exact fun e he => (hran e he).within.spares hother
  | refused other failure =>
      obtain ⟨status, stored⟩ := line
      obtain rfl : status = .idle := hidle
      rcases eq_or_ne other c with rfl | hother
      · exact congrArg Line.status (if_pos rfl)
      · exact congrArg Line.status (if_neg hother)
  | dropped other verdict =>
      rcases eq_or_ne other c with rfl | hother
      · exact congrArg Line.status (if_pos rfl)
      · rw [Line.foldl_spared (by simp [Exchange.Spares, hother]), hidle]
  | @discarded other begun hbegun =>
      rw [List.foldl_append]
      rcases eq_or_ne other c with rfl | hother
      · exact congrArg Line.status (if_pos rfl)
      · rw [Line.foldl_spared (hbegun.spares hother)]
        exact (congrArg Line.status (if_neg hother)).trans hidle
  | @ended other begun ending st _ hbegun hst hends =>
      rw [List.foldl_append]
      rcases eq_or_ne other c with rfl | hother
      · exact Line.idle_of_ends hends hst
      · rw [Line.foldl_spared (hbegun.spares hother), Line.foldl_spared, hidle]
        cases hends <;> simp [Exchange.Spares, hother]

theorem lineOn_idle {visits : List (List Exchange)} (hvisits : ∀ visit ∈ visits, Visit visit) :
    (lineOn c visits.flatten).status = .idle := by
  have hkept : ∀ line : Line, line.status = .idle →
      (visits.flatten.foldl (Line.after c) line).status = .idle := by
    induction visits with
    | nil => exact fun _ hidle => hidle
    | cons visit visits ih =>
        obtain ⟨hvisit, hrest⟩ := List.forall_mem_cons.mp hvisits
        intro line hidle
        rw [List.flatten_cons, List.foldl_append]
        exact ih hrest _ (hvisit.idle hidle)
  exact hkept {} rfl

/-- What a connection has kept when a transaction has been committed on it. -/
theorem stored_of_commit {earlier : List Exchange} (hes : Running c es)
    (hearlier : (lineOn c earlier).status = .idle) (answer : ServerAnswer) :
    (lineOn c (earlier ++ es ++ [.sent c .commit (.ok answer) true, .released c])).stored =
      (lineOn c earlier).stored ++ if es.any Exchange.failed then [] else writesOf es := by
  have hline : lineOn c earlier = ⟨.idle, (lineOn c earlier).stored⟩ := by rw [← hearlier]
  rw [List.append_assoc, lineOn, List.foldl_append]
  show (List.foldl (Line.after c) (lineOn c earlier) _).stored = _
  rw [hline, hes.foldl_commit]

end Line

/-! ## The session -/

section Desk

variable {d t : Desk}

/-- A commit that succeeds. -/
theorem Desk.Takes.committed (h : d.Takes ⟨.commit, some (.ok ())⟩ t) (hrests : d.session.Rests) :
    ∃ c answer, d.session.transaction = some c ∧ t.session.transaction = none ∧
      t.past = d.past ++ [.sent c .commit (.ok answer) true, .released c] := by
  obtain ⟨new, next, hconducts, rfl⟩ := (Desk.takes_iff hrests.free).mp h
  replace hconducts : d.session.Ends .commit .commitFailed new (some (.ok ())) next := hconducts
  generalize hreply : (some (.ok ()) : Option (Except Failure Unit)) = reply at hconducts
  cases hconducts with
  | idle => cases hreply
  | @ended c hbusy _ _ hends =>
      cases hends with
      | dropped | refused => cases hreply
      | ended answer => exact ⟨c, answer, hbusy, rfl, rfl⟩

end Desk

end Postgres

/-! ## The body -/

section Body

variable {app : Jobs} {h : Handle} {ds : List (WorkDeed app)} {d t : Desk}

/-- The write that an operation asks for. -/
def Operation.write? (operation : Operation) : Option Statement :=
  match operation.statement? with
  | .ok (some statement) => if statement.isWrite then some statement else none
  | _ => none

/-- The write that was acknowledged by `h`. -/
def WorkDeed.acknowledged? (h : Handle) : WorkDeed app → Option Statement
  | .heard (.execute g operation) (.ok _) => if g = h then operation.write? else none
  | _ => none

/-- The writes that were acknowledged by `h`. -/
def acknowledged (h : Handle) (deeds : List (WorkDeed app)) : List Statement :=
  deeds.filterMap (WorkDeed.acknowledged? h)

/-- The deed asks nothing of `h` but to execute an operation. -/
def WorkDeed.OnlyExecutes (h : Handle) (deed : WorkDeed app) : Prop :=
  ∀ turn, deed.turn? h = some turn → ∃ operation, turn.order = .execute operation

/-- An operation that has been run with success has made its write. -/
theorem Postgres.Session.Runs.write_mem {c : Connection} {op : Operation} {new : List Exchange}
    {outcome : Outcome} (h : Session.Runs c op new (some (.ok outcome))) {st : Statement}
    (hst : op.write? = some st) : st ∈ writesOf new := by
  generalize hv : (some (.ok outcome) : Option (Except Failure Outcome)) = v at h
  cases h with
  | unnamed hsends | unsent hsends =>
      simp only [Operation.write?, hsends] at hst
      cases hst
  | dropped => cases hv
  | answered hsends verdict =>
      simp only [Operation.write?, hsends, Option.ite_none_right_eq_some] at hst
      obtain ⟨hwrite, hst⟩ := hst
      cases hst
      cases verdict with
      | error failure => cases hv
      | ok answer =>
          have hwritten : writesOf [.sent c st (.ok answer) true] = [st] := by
            show (if st.isWrite then [st] else []) ++ [] = [st]
            rw [if_pos hwrite, List.append_nil]
          rw [hwritten]
          exact List.mem_singleton_self st

theorem WorkDeed.acknowledged?_eq_some {deed : WorkDeed app} {st : Statement}
    (hst : deed.acknowledged? h = some st) :
    ∃ operation outcome, operation.write? = some st ∧
      deed.turn? h = some ⟨.execute operation, some (.ok outcome)⟩ := by
  cases deed with
  | did | lost => cases hst
  | heard call reply =>
      cases call with
      | execute g operation =>
          cases reply with
          | error => cases hst
          | ok outcome =>
              obtain ⟨hg, hst⟩ := Option.ite_none_right_eq_some.mp hst
              exact ⟨operation, outcome, hst, if_pos hg⟩
      | create | configure | begin | commit | rollback | job => cases hst

/-- While there is a transaction, an operation stays within it. -/
theorem Postgres.Desk.Serves.executes {c : Connection} {deed : WorkDeed app}
    (hserves : d.Serves h deed t) (hdeed : deed.OnlyExecutes h) (hrests : d.session.Rests)
    (hbusy : d.session.transaction = some c) :
    ∃ new, t = d.add new ∧ (∀ e ∈ new, e.OperatesOn c) ∧
      ∀ st, deed.acknowledged? h = some st → st ∈ writesOf new := by
  cases hturn : deed.turn? h with
  | none =>
      refine ⟨[], (hserves.spared hturn).trans (Desk.add_nil d).symm, by simp, ?_⟩
      intro st hst
      obtain ⟨op, outcome, -, hsome⟩ := WorkDeed.acknowledged?_eq_some hst
      rw [hturn] at hsome
      cases hsome
  | some turn =>
      obtain ⟨order, reply⟩ := turn
      obtain ⟨op, rfl⟩ : ∃ op, order = .execute op := hdeed _ hturn
      obtain ⟨new, next, ⟨hexecutes, rfl⟩, rfl⟩ :=
        (Desk.takes_iff hrests.free).mp (hserves.taken _ hturn)
      refine ⟨new, rfl, ?_⟩
      cases hexecutes with
      | closed hclosed =>
          rw [hrests.idle_of_closed hclosed] at hbusy
          cases hbusy
      | readOnly _ hidle | plain _ hidle =>
          rw [hidle] at hbusy
          cases hbusy
      | inTransaction _ hbusy' hruns =>
          obtain rfl := Option.some.inj (hbusy.symm.trans hbusy')
          refine ⟨hruns.operatesOn, ?_⟩
          intro st hst
          obtain ⟨op', outcome, hwrite, hsome⟩ := WorkDeed.acknowledged?_eq_some hst
          rw [hturn] at hsome
          cases hsome
          exact hruns.write_mem hwrite

/-- A body that only executes operations leaves the transaction in place, and all that it
is told to have written is written in this transaction. -/
theorem Postgres.Desk.follows_executes {c : Connection}
    (hserved : Follows (Desk.Serves h) ds d t) (hds : ∀ deed ∈ ds, deed.OnlyExecutes h)
    (hrests : d.session.Rests) (hbusy : d.session.transaction = some c) :
    ∃ new, t = d.add new ∧ (∀ e ∈ new, e.OperatesOn c) ∧
      ∀ st ∈ acknowledged h ds, st ∈ writesOf new := by
  induction ds generalizing d with
  | nil =>
      obtain rfl := hserved
      exact ⟨[], (Desk.add_nil t).symm, by simp, by simp [acknowledged]⟩
  | cons deed ds ih =>
      obtain ⟨u, hserves, hlater⟩ := hserved
      obtain ⟨hdeed, hds⟩ := List.forall_mem_cons.mp hds
      obtain ⟨first, rfl, hfirst, hwrote⟩ := hserves.executes hdeed hrests hbusy
      obtain ⟨rest, rfl, hrest, hwrite⟩ := ih hlater hds hrests hbusy
      refine ⟨first ++ rest, Desk.add_add .., List.forall_mem_append.mpr ⟨hfirst, hrest⟩, ?_⟩
      intro st hst
      obtain ⟨e, he, hack⟩ := List.mem_filterMap.mp hst
      rw [writesOf, List.flatMap_append]
      rcases List.mem_cons.mp he with rfl | he
      · exact List.mem_append_left _ (hwrote st hack)
      · exact List.mem_append_right _ (hwrite st (List.mem_filterMap.mpr ⟨e, he, hack⟩))

end Body

/-! ## The unit of work -/

section UnitOfWork

variable {app : Jobs} {h : Handle} {ds : List (WorkDeed app)} {d t : Desk} {cx : ContextId}

theorem did_of_action {α : Type} {x : Step α} {value : α} (hx : x.Traces ds value) :
    ∀ deed ∈ ds, ∃ command answer, deed = .did command answer := by
  induction hx with
  | done => simp
  | perform _ ih => exact List.forall_mem_cons.mpr ⟨⟨_, _, rfl⟩, ih⟩

/-- A completion that commits with success begins with that. -/
theorem Demarcator.Completes.of_committed {demarcator next : Demarcator}
    (hcompletes : demarcator.Completes cx ds (some (.ok (), next)))
    (hcommitted : .heard (.commit h) (.ok ()) ∈ ds) :
    ∃ work finishing, demarcator.current = some work ∧ work.handle = h ∧
      work.spec.transactional = true ∧
      ds = .did (.transactionActive h) true :: .heard (.commit h) (.ok ()) :: finishing ∧
      ∀ deed ∈ finishing, ∃ command answer, deed = .did command answer := by
  cases hcompletes with
  | idle => cases hcommitted
  | @completed work hcurrent deeds finishing hcommits hfinishes =>
      have hdid := did_of_action ((Demarcator.traces_finish (u := ())).mpr hfinishes)
      have hmem : .heard (.commit h) (.ok ()) ∈ deeds := by
        refine (List.mem_append.mp hcommitted).resolve_right ?_
        intro hmem
        obtain ⟨_, _, hdeed⟩ := hdid _ hmem
        cases hdeed
      cases hcommits with
      | notOwed howes => cases howes <;> simp at hmem
      | committed howes =>
          cases howes with
          | asked htransactional =>
              obtain rfl : work.handle = h := by simpa [eq_comm] using hmem
              refine ⟨work, _, hcurrent, rfl, htransactional, rfl, ?_⟩
              exact List.forall_mem_cons.mpr ⟨⟨_, _, rfl⟩, hdid⟩

/-- Commands leave a session alone that has no transaction, but that it may be closed. -/
theorem Postgres.Desk.past_of_did (hserved : Follows (Desk.Serves h) ds d t)
    (hds : ∀ deed ∈ ds, ∃ command answer, deed = .did command answer)
    (hrests : d.session.Rests) (hidle : d.session.transaction = none) : t.past = d.past := by
  have hkept : t.session.Rests ∧ t.session.transaction = none ∧ t.past = d.past := by
    refine Desk.keeps_of_serves (P := fun u => u.session.Rests ∧ u.session.transaction = none ∧
      u.past = d.past) hserved ?_ ⟨hrests, hidle, rfl⟩
    rintro deed hmem turn hturn u w htakes ⟨hurests, huidle, hupast⟩
    obtain ⟨command, answer, rfl⟩ := hds deed hmem
    cases command with
    | close g =>
        obtain ⟨-, hturn⟩ := Option.ite_none_right_eq_some.mp hturn
        cases hturn
        obtain ⟨new, next, ⟨-, hcloses⟩, rfl⟩ := (Desk.takes_iff hurests.free).mp htakes
        have hnext : next.Rests := hcloses.rests hurests
        cases hcloses with
        | again | idle => exact ⟨hnext, huidle, (List.append_nil _).trans hupast⟩
        | abandoned _ hbusy =>
            rw [huidle] at hbusy
            cases hbusy
    | context | transactionActive | provides | emit => cases hturn
  exact hkept.2.2

/-- When a unit of work in a transaction has been opened, its session has begun one. -/
theorem Demarcator.Starts.running {demarcator started : Demarcator} {registry : Registry}
    {spec : WorkSpec} {work : OpenUnit}
    (hstarts : demarcator.Starts registry cx (some spec) ds (some (.ok started)))
    (hcurrent : started.current = some work) (htransactional : work.spec.transactional = true)
    (hserved : Follows (Desk.Serves work.handle) ds (.new work.handle.factory) d) :
    d.session.Rests ∧ ∃ c, d.session.transaction = some c ∧ Running c d.past := by
  cases hstarts with
  | opened hresolved henters =>
      cases hcurrent
      cases henters with
      | bound _ hplain =>
          rw [htransactional] at hplain
          cases hplain
      | begun =>
          obtain ⟨_, hcreate, configured, hconfigure, _, hbind, _, hbound, begun, hbegin, _, hemit,
            rfl⟩ := hserved
          obtain rfl := hcreate.spared rfl
          obtain rfl := (hbind.spared rfl).symm
          obtain rfl := (hbound.spared rfl).symm
          obtain rfl := (hemit.spared rfl).symm
          have hconfigured := hconfigure.rests (Session.rests_new _)
          refine ⟨hbegin.rests hconfigured, ?_⟩
          have hpast : configured.past = [] := by
            obtain ⟨_, _, ⟨rfl, -⟩, rfl⟩ :=
              (Desk.takes_iff rfl).mp (hconfigure.taken _ (if_pos rfl))
            rfl
          obtain ⟨new, next, hbegins, rfl⟩ :=
            (Desk.takes_iff hconfigured.free).mp (hbegin.taken _ (if_pos rfl))
          replace hbegins : configured.session.Begins new (some (.ok ())) next := hbegins
          cases hbegins with
          | @begun _ _ _ c hopens =>
              refine ⟨c, rfl, ?_⟩
              rw [hpast]
              exact hopens.running

theorem Postgres.Desk.accounted_of_serves
    (hserved : Follows (Desk.Serves h) ds (.new h.factory) d) :
    d.session.Rests ∧ Accounted d.session.transaction d.past := by
  refine Desk.keeps_of_serves (P := fun u => u.session.Rests ∧
    Accounted u.session.transaction u.past) hserved ?_ ⟨Session.rests_new _, accounted_nil⟩
  rintro deed - turn - u w htakes ⟨hrests, hpast⟩
  exact ⟨htakes.rests hrests, htakes.accounted hrests hpast⟩

/-- The transaction in which a body leaves the session: it is the first one, if the body has
only executed operations. -/
theorem Postgres.Desk.block_of_body {c begun : Connection}
    (hserved : Follows (Desk.Serves h) ds d t) (hrests : d.session.Rests)
    (hbegun : d.session.transaction = some begun)
    (hrunning : Running begun d.past) (hpast : Accounted t.session.transaction t.past)
    (hbusy : t.session.transaction = some c) :
    ∃ earlier block, t.past = earlier ++ block ∧ Running c block ∧
      (lineOn c earlier).status = .idle ∧
      ((∀ deed ∈ ds, deed.OnlyExecutes h) → earlier = [] ∧
        ∀ st ∈ acknowledged h ds, st ∈ writesOf block) := by
  by_cases hds : ∀ deed ∈ ds, deed.OnlyExecutes h
  · obtain ⟨new, rfl, hnew, hwrote⟩ := Desk.follows_executes hserved hds hrests hbegun
    obtain rfl := Option.some.inj (hbegun.symm.trans hbusy)
    refine ⟨[], d.past ++ new, rfl, hrunning.append fun e he => (hnew e he).within, rfl, ?_⟩
    refine fun _ => ⟨rfl, ?_⟩
    intro st hst
    rw [writesOf, List.flatMap_append]
    exact List.mem_append_right _ (hwrote st hst)
  · rw [hbusy] at hpast
    obtain ⟨visits, block, hsplit, hvisits, hblock⟩ := hpast
    exact ⟨visits.flatten, block, hsplit, hblock, lineOn_idle hvisits, fun h => absurd h hds⟩

/-- When a unit of work is completed with success and has committed, then its handle has
committed a transaction on a connection `c`.  The writes of this transaction are kept if
and only if it has made none, or none of its statements has failed.

If the body has only executed operations, then all exchanges of the handle belong to this
transaction; so the server keeps every write that the body was told to be made if and only
if there are none, or no statement has failed.  What the body does with a failure, and that
the completion succeeds, makes no difference. -/
theorem Demarcator.Completes.keeps_writes_iff {demarcator started next : Demarcator}
    {registry : Registry} {spec : WorkSpec} {opened during ended : List (WorkDeed app)}
    (hstarts : demarcator.Starts registry cx (some spec) opened (some (.ok started)))
    (hcompletes : started.Completes cx ended (some (.ok (), next)))
    (hcommitted : .heard (.commit h) (.ok ()) ∈ ended)
    (hserved : Follows (Desk.Serves h) (opened ++ during ++ ended) (.new h.factory) d) :
    ∃ earlier block c answer,
      d.past = earlier ++ block ++ [.sent c .commit (.ok answer) true, .released c] ∧
      Running c block ∧
      ((lineOn c d.past).stored = (lineOn c earlier).stored ++ writesOf block ↔
        writesOf block = [] ∨ ∀ e ∈ block, e.failed = false) ∧
      ((∀ deed ∈ during, deed.OnlyExecutes h) → earlier = [] ∧
        ((∀ st ∈ acknowledged h during, st ∈ (lineOn c d.past).stored) ↔
          acknowledged h during = [] ∨ ∀ e ∈ block, e.failed = false)) := by
  obtain ⟨work, finishing, hcurrent, rfl, htransactional, rfl, hfinishing⟩ :=
    hcompletes.of_committed hcommitted
  obtain ⟨b, hbody, hended⟩ := follows_append.mp hserved
  obtain ⟨a, hopened, hduring⟩ := follows_append.mp hbody
  obtain ⟨harests, begun, habusy, harunning⟩ := hstarts.running hcurrent htransactional hopened
  obtain ⟨hbrests, hbpast⟩ := Desk.accounted_of_serves hbody
  -- the commit, and what comes after it
  obtain ⟨_, hasked, t, hcommit, hlater⟩ := hended
  obtain rfl := (hasked.spared rfl).symm
  obtain ⟨c, answer, hbusy, hidle, htpast⟩ := (hcommit.taken _ (if_pos rfl)).committed hbrests
  have hdpast : d.past = b.past ++ [.sent c .commit (.ok answer) true, .released c] :=
    (Desk.past_of_did hlater hfinishing (hcommit.rests hbrests) hidle).trans htpast
  obtain ⟨earlier, block, hsplit, hblock, hearlier, hwrote⟩ :=
    Desk.block_of_body hduring harests habusy harunning hbpast hbusy
  rw [hsplit] at hdpast
  have hstored := stored_of_commit hblock hearlier answer
  rw [← hdpast] at hstored
  have hclean : (∀ e ∈ block, e.failed = false) ↔ block.any Exchange.failed = false := by simp
  refine ⟨earlier, block, c, answer, hdpast, hblock, ?_, ?_⟩
  · rw [hstored, List.append_cancel_left_eq, hclean]
    cases block.any Exchange.failed with
    | true => exact ⟨fun h => Or.inl h.symm, fun h => (h.resolve_right Bool.noConfusion).symm⟩
    | false => exact iff_of_true rfl (Or.inr rfl)
  · intro hexecutes
    obtain ⟨rfl, hwritten⟩ := hwrote hexecutes
    refine ⟨rfl, ?_⟩
    rw [hstored, hclean]
    cases block.any Exchange.failed with
    | true => simp [lineOn, List.eq_nil_iff_forall_not_mem]
    | false =>
        exact iff_of_true (fun st hst => List.mem_append_right _ (hwritten st hst)) (Or.inr rfl)

/-- A row. -/
def firstUser : Record := { entity := "users", id := ⟨1⟩, data := ⟨.null⟩ }

/-- The statement that adds it. -/
def addFirstUser : Statement := .insert ⟨"users", by decide⟩ ⟨1⟩ ⟨.null⟩

theorem statement?_firstUser :
    (Operation.persist firstUser).statement? = .ok (some addFirstUser) := by
  have htable : TableName.ofEntity "users" = .ok ⟨"users", by decide⟩ := dif_pos (by decide)
  simp only [Operation.statement?, firstUser, htable]
  rfl

/-- A body adds it again and again, and makes nothing of a failure. -/
def adding (verdicts : List (Except DatabaseFailure ServerAnswer)) : List (WorkDeed noJobs) :=
  verdicts.map fun verdict => .heard (.execute ⟨0, ⟨0⟩⟩ (.persist firstUser))
    ((Operation.persist firstUser).conclude verdict)

/-- The unit of work is completed, and the handle kept for later. -/
def committing : List (WorkDeed noJobs) :=
  [.did (.transactionActive ⟨0, ⟨0⟩⟩) true, .heard (.commit ⟨0, ⟨0⟩⟩) (.ok ()),
    .did (.emit (.committed defaultUnitName)) ()] ++ []

theorem completes_committing :
    Demarcator.Completes { mode := .deferred, current := some (firstWork {}) } ⟨0⟩ committing
      (some (.ok (), { mode := .deferred })) :=
  .completed rfl (.committed (.asked rfl true)) (.deferred rfl)

/-- What passes in its transaction. -/
def addingBlock (verdicts : List (Except DatabaseFailure ServerAnswer)) : List Exchange :=
  .asked (some (.ok ⟨0⟩)) :: .sent ⟨0⟩ .begin (.ok {}) true ::
    verdicts.map fun verdict => .sent ⟨0⟩ addFirstUser verdict true

/-- What passes altogether. -/
def addingDesk (verdicts : List (Except DatabaseFailure ServerAnswer)) : Desk where
  session := { factory := ⟨0⟩ }
  past := addingBlock verdicts ++ [.sent ⟨0⟩ .commit (.ok {}) true, .released ⟨0⟩]

theorem serves_adding (verdicts : List (Except DatabaseFailure ServerAnswer)) :
    Follows (Desk.Serves ⟨0, ⟨0⟩⟩) (entering {} ++ adding verdicts ++ committing) (.new ⟨0⟩)
      (addingDesk verdicts) := by
  have hbody : ∀ past, Follows (Desk.Serves ⟨0, ⟨0⟩⟩) (adding verdicts) (entered {} ⟨0⟩ past)
      (entered {} ⟨0⟩
        (past ++ verdicts.map fun verdict => .sent ⟨0⟩ addFirstUser verdict true)) := by
    induction verdicts with
    | nil => simp [adding]
    | cons verdict verdicts ih =>
        intro past
        refine ⟨_, Desk.serves_of_conducts ⟨.execute (.persist firstUser), some _⟩ rfl rfl
          ⟨.inTransaction rfl rfl (.answered statement?_firstUser verdict), rfl⟩, ?_⟩
        have hrest := ih (past ++ [.sent ⟨0⟩ addFirstUser verdict true])
        rwa [List.append_assoc] at hrest
  have hopened : Follows (Desk.Serves ⟨0, ⟨0⟩⟩) (entering {}) (.new ⟨0⟩) (entered {} ⟨0⟩ _) :=
    serves_entering (.begun ⟨0⟩ {} rfl)
  refine follows_append.mpr ⟨_, follows_append.mpr ⟨_, hopened, hbody _⟩, ?_⟩
  refine ⟨_, Desk.serves_asked, ?_⟩
  refine ⟨_, Desk.serves_of_conducts ⟨.commit, some (.ok ())⟩ rfl rfl (.ended rfl (.ended {})), ?_⟩
  exact ⟨_, Desk.serves_of_none rfl nofun, rfl⟩

theorem mem_acknowledged_adding {verdicts : List (Except DatabaseFailure ServerAnswer)} :
    addFirstUser ∈ acknowledged ⟨0, ⟨0⟩⟩ (adding (.ok {} :: verdicts)) := by
  have hwrite : (Operation.persist firstUser).write? = some addFirstUser := by
    simp only [Operation.write?, statement?_firstUser]
    rfl
  exact List.mem_filterMap.mpr ⟨_, List.mem_cons_self, hwrite⟩

/-- What is added without a failure is kept. -/
theorem added_kept :
    Follows (Desk.Serves ⟨0, ⟨0⟩⟩) (entering {} ++ adding [.ok {}] ++ committing) (.new ⟨0⟩)
        (addingDesk [.ok {}]) ∧
      addFirstUser ∈ acknowledged ⟨0, ⟨0⟩⟩ (adding [.ok {}]) ∧
      addFirstUser ∈ (lineOn ⟨0⟩ (addingDesk [.ok {}]).past).stored := by
  refine ⟨serves_adding _, mem_acknowledged_adding, ?_⟩
  have hstarts : Demarcator.Starts { mode := .deferred } (.lone ⟨0⟩) ⟨0⟩ (some {})
      (entering {}) _ := starts_entering rfl rfl
  obtain ⟨_, block, c, answer, hpast, -, -, hbody⟩ :=
    completes_committing.keeps_writes_iff hstarts (by simp [committing]) (serves_adding [.ok {}])
  have hexecutes : ∀ deed ∈ adding [.ok {}], deed.OnlyExecutes ⟨0, ⟨0⟩⟩ := by
    rintro deed hmem turn hturn
    obtain rfl := List.mem_singleton.mp hmem
    cases hturn
    exact ⟨_, rfl⟩
  obtain ⟨rfl, hkept⟩ := hbody hexecutes
  obtain ⟨hblock, hlast⟩ := List.append_inj' hpast rfl
  cases hlast
  refine hkept.mpr (Or.inr ?_) _ mem_acknowledged_adding
  rw [← List.nil_append block, ← hblock]
  simp [addingBlock, Exchange.failed, Except.isOk, Except.toBool]

/-- The verdict on adding the row again. -/
def duplicateKey : DatabaseFailure := .server "duplicate key"

/-- Where a later statement has failed, nothing is kept of what was added before, though
it was acknowledged, and though the unit of work was completed with success after a commit. -/
theorem added_lost :
    Demarcator.Starts { mode := .deferred } (.lone ⟨0⟩) ⟨0⟩ (some {}) (entering {})
        (some (.ok { mode := .deferred, current := some (firstWork {}) })) ∧
      Demarcator.Completes { mode := .deferred, current := some (firstWork {}) } ⟨0⟩ committing
        (some (.ok (), { mode := .deferred })) ∧
      .heard (.commit ⟨0, ⟨0⟩⟩) (.ok ()) ∈ committing ∧
      Follows (Desk.Serves ⟨0, ⟨0⟩⟩)
        (entering {} ++ adding [.ok {}, .error duplicateKey] ++ committing) (.new ⟨0⟩)
        (addingDesk [.ok {}, .error duplicateKey]) ∧
      addFirstUser ∈ acknowledged ⟨0, ⟨0⟩⟩ (adding [.ok {}, .error duplicateKey]) ∧
      (lineOn ⟨0⟩ (addingDesk [.ok {}, .error duplicateKey]).past).stored = [] :=
  ⟨starts_entering rfl rfl, completes_committing, by simp [committing], serves_adding _,
    mem_acknowledged_adding, rfl⟩

end UnitOfWork

end Demarcation
