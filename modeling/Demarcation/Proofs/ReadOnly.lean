/-
Read-only units of work.

A unit of work tells its handle whether it is read-only, once and first of all.  The
session behind the handle looks at this when it begins a transaction, and again when it
runs an operation outside one.  `Exchange.Befits` says what this comes to on the wire:
a statement of a read-only session is sent only where a read-only transaction has been
begun on the same connection and not ended since (`ReadOnlyOn`), and other sessions never
ask for one.
-/
import Demarcation.Proofs.Forwarding
import Demarcation.Proofs.Serving
import Demarcation.Proofs.Visits

namespace Demarcation

open Postgres

namespace Postgres

/-! ## On the wire -/

/-- On this connection a transaction has been begun and been made read-only, and nothing
but statements of operations has come since. -/
def ReadOnlyOn (c : Connection) (past : List Exchange) : Prop :=
  ∃ before answer confirmation inside,
    past = before ++ .sent c .begin (.ok answer) true ::
      .sent c .setReadOnly (.ok confirmation) true :: inside ∧
    ∀ e ∈ inside, e.OperatesOn c

/-- What may come after `earlier` in a session, which is read-only or not. -/
def Exchange.Befits (readOnly : Bool) (earlier : List Exchange) : Exchange → Prop
  | .sent c statement _ _ =>
    (statement = .setReadOnly → readOnly = true) ∧
      (statement.isControl = false → readOnly = true → ReadOnlyOn c earlier)
  | _ => True

section Befits

variable {c : Connection} {op : Operation} {readOnly : Bool} {past es : List Exchange}

theorem ReadOnlyOn.append (hpast : ReadOnlyOn c past) (hes : ∀ e ∈ es, e.OperatesOn c) :
    ReadOnlyOn c (past ++ es) := by
  obtain ⟨before, a, b, inside, rfl, hinside⟩ := hpast
  exact ⟨before, a, b, inside ++ es, by simp, List.forall_mem_append.mpr ⟨hinside, hes⟩⟩

theorem Session.Opens.readOnlyOn (h : Session.Opens true es (some (.ok c))) :
    ReadOnlyOn c (past ++ es) := by
  cases h with
  | begun _ _ hplain => cases hplain
  | begunReadOnly _ a _ b =>
      exact ⟨past ++ [.asked (some (.ok c))], a, b, [], by simp, by simp⟩

theorem Session.Opens.befits {opened? : Option (Except DatabaseFailure Connection)}
    (h : Session.Opens readOnly es opened?) : Each (Exchange.Befits readOnly) past es := by
  refine each_of_forall ?_
  cases h with
  | abandoned | unlent | beginDropped | beginRefused | begun =>
      simp [Exchange.Befits, Statement.isControl, Statement.isBoundary]
  | setDropped _ _ honly | setRefused _ _ honly | begunReadOnly _ _ honly =>
      simp [Exchange.Befits, Statement.isControl, Statement.isBoundary, honly]

theorem Session.EndsBy.befits {st : Statement} {ended? : Option (Except DatabaseFailure Unit)}
    (h : Session.EndsBy c st es ended?) (hst : st = .commit ∨ st = .rollback) :
    Each (Exchange.Befits readOnly) past es := by
  refine each_of_forall ?_
  rcases hst with rfl | rfl <;> cases h <;>
    simp [Exchange.Befits, Statement.isControl, Statement.isBoundary]

theorem Session.Runs.befits {v : Option (Except Failure Outcome)} (h : Session.Runs c op es v)
    (hpast : readOnly = true → ReadOnlyOn c past) : Each (Exchange.Befits readOnly) past es := by
  have hsole : ∀ {st : Statement} {verdict : Except DatabaseFailure ServerAnswer} {heard : Bool},
      op.statement? = .ok (some st) →
        Each (Exchange.Befits readOnly) past [.sent c st verdict heard] := by
    intro st verdict heard hsends
    refine ⟨⟨?_, fun _ => hpast⟩, trivial⟩
    rintro rfl
    cases isControl_of_sends hsends
  cases h with
  | unnamed | unsent => trivial
  | answered hsends | dropped hsends => exact hsole hsends

theorem Session.RunsReadOnly.befits {v : Option (Except Failure Outcome)}
    (h : Session.RunsReadOnly op es v) : Each (Exchange.Befits true) past es := by
  cases h with
  | openDropped hopens | unopened hopens => exact hopens.befits
  | runDropped hopens hruns | failed hopens hruns =>
      refine each_append.mpr ⟨hopens.befits, each_append.mpr ⟨?_, trivial, trivial⟩⟩
      exact hruns.befits fun _ => hopens.readOnlyOn
  | ended hopens hruns hends =>
      refine each_append.mpr ⟨hopens.befits, each_append.mpr ⟨?_, hends.befits (Or.inl rfl)⟩⟩
      exact hruns.befits fun _ => hopens.readOnlyOn

theorem Session.RunsPlain.befits {v : Option (Except Failure Outcome)}
    (h : Session.RunsPlain op es v) : Each (Exchange.Befits false) past es := by
  cases h with
  | abandoned | unlent => exact ⟨trivial, trivial⟩
  | ran hruns =>
      refine ⟨trivial, each_append.mpr ⟨hruns.befits ?_, trivial, trivial⟩⟩
      intro hfalse
      cases hfalse

end Befits

/-! ## What a session keeps to -/

/-- The transaction of a read-only session is read-only. -/
def Session.Covered (session : Session) (past : List Exchange) : Prop :=
  ∀ c, session.transaction = some c → session.options.readOnly = true → ReadOnlyOn c past

section Covered

variable {s next : Session} {new past : List Exchange}

theorem Session.covered_of_idle (hidle : s.transaction = none) : s.Covered past := by
  intro c hbusy
  rw [hidle] at hbusy
  cases hbusy

theorem Session.Begins.befits {reply : Option (Except Failure Unit)}
    (h : s.Begins new reply next) (hs : s.Covered past) :
    Each (Exchange.Befits s.options.readOnly) past new ∧ next.Covered (past ++ new) := by
  cases h with
  | closed | busy =>
      rw [List.append_nil]
      exact ⟨trivial, hs⟩
  | dropped _ hidle hopens | failed _ hidle hopens =>
      exact ⟨hopens.befits, Session.covered_of_idle hidle⟩
  | begun _ _ hopens =>
      refine ⟨hopens.befits, ?_⟩
      rintro c ⟨⟩ honly
      rw [show s.options.readOnly = true from honly] at hopens
      exact hopens.readOnlyOn

theorem Session.Ends.befits {statement : Statement} {failed : String → Failure}
    {reply : Option (Except Failure Unit)} (h : s.Ends statement failed new reply next)
    (hstatement : statement = .commit ∨ statement = .rollback) :
    Each (Exchange.Befits s.options.readOnly) past new ∧ next.Covered (past ++ new) := by
  refine ⟨?_, Session.covered_of_idle h.idle_after.1⟩
  cases h with
  | idle => trivial
  | ended _ hends => exact hends.befits hstatement

theorem Session.Executes.befits {operation : Operation} {v : Option (Except Failure Outcome)}
    (h : s.Executes operation new v) (hs : s.Covered past) :
    Each (Exchange.Befits s.options.readOnly) past new ∧ s.Covered (past ++ new) := by
  cases h with
  | closed =>
      rw [List.append_nil]
      exact ⟨trivial, hs⟩
  | @inTransaction _ c hbusy _ _ hruns =>
      refine ⟨hruns.befits (hs c hbusy), ?_⟩
      intro other hother honly
      obtain rfl := Option.some.inj (hbusy.symm.trans hother)
      exact (hs c hbusy honly).append hruns.operatesOn
  | readOnly _ hidle honly hruns =>
      rw [honly]
      exact ⟨hruns.befits, Session.covered_of_idle hidle⟩
  | plain _ hidle hplain hruns =>
      rw [hplain]
      exact ⟨hruns.befits, Session.covered_of_idle hidle⟩

theorem Session.Closes.befits (h : s.Closes new next) (hs : s.Covered past) :
    Each (Exchange.Befits s.options.readOnly) past new ∧ next.Covered (past ++ new) := by
  cases h with
  | again =>
      rw [List.append_nil]
      exact ⟨trivial, hs⟩
  | idle _ hidle => exact ⟨trivial, Session.covered_of_idle hidle⟩
  | abandoned => exact ⟨⟨trivial, trivial⟩, Session.covered_of_idle rfl⟩

/-- What passes in a call befits the session, and leaves its transaction read-only if it
is to be. -/
theorem Order.Conducts.befits {order : Order} {reply : Option order.Reply}
    (h : order.Conducts s new reply next) (horder : ∀ options, order ≠ .configure options)
    (hs : s.Covered past) :
    Each (Exchange.Befits s.options.readOnly) past new ∧ next.Covered (past ++ new) := by
  cases order with
  | configure options => exact absurd rfl (horder options)
  | begin => exact Session.Begins.befits h hs
  | commit => exact Session.Ends.befits h (Or.inl rfl)
  | rollback => exact Session.Ends.befits h (Or.inr rfl)
  | execute operation =>
      obtain ⟨h, rfl⟩ := h
      exact h.befits hs
  | close => exact Session.Closes.befits h.2 hs

/-- The policy of a session is changed by configuring it, and by nothing else. -/
theorem Order.Conducts.options_eq {order : Order} {reply : Option order.Reply}
    (h : order.Conducts s new reply next) (horder : ∀ options, order ≠ .configure options) :
    next.options = s.options := by
  cases order with
  | configure options => exact absurd rfl (horder options)
  | begin => cases (h : s.Begins new reply next) <;> rfl
  | commit | rollback => cases (h : s.Ends _ _ new reply next) <;> rfl
  | execute operation => rw [h.2]
  | close => cases h.2 <;> rfl

end Covered

/-- The session has its policy, and its exchanges befit it. -/
structure Desk.KeepsTo (readOnly : Bool) (desk : Desk) : Prop where
  rests : desk.session.Rests
  policy : desk.session.options.readOnly = readOnly
  covered : desk.session.Covered desk.past
  befits : Each (Exchange.Befits readOnly) [] desk.past

/-- Whatever is asked of it but to be configured, a session keeps to its policy. -/
theorem Desk.KeepsTo.step {readOnly : Bool} {d t : Desk} {turn : Turn}
    (hd : d.KeepsTo readOnly) (hturn : ∀ options, turn.order ≠ .configure options)
    (htakes : d.Takes turn t) : t.KeepsTo readOnly := by
  obtain ⟨new, next, hconducts, rfl⟩ := (Desk.takes_iff hd.rests.free).mp htakes
  obtain ⟨hnew, hcovered⟩ := hconducts.befits hturn hd.covered
  rw [hd.policy] at hnew
  refine ⟨hconducts.rests hd.rests, ?_, hcovered, each_append.mpr ⟨hd.befits, hnew⟩⟩
  exact (congrArg SessionOptions.readOnly (hconducts.options_eq hturn)).trans hd.policy

end Postgres

/-! ## Units of work -/

section UnitOfWork

variable {app : Jobs} {h : Handle} {spec : WorkSpec} {ds : List (WorkDeed app)} {d : Desk}

theorem WorkDeed.order_ne_configure {deed : WorkDeed app} {turn : Turn}
    (hdeed : ¬ deed.Configures h) (hturn : deed.turn? h = some turn) :
    ∀ options, turn.order ≠ .configure options := by
  intro options horder
  cases deed with
  | did command =>
      cases command with
      | close g =>
          obtain ⟨-, hturn⟩ := Option.ite_none_right_eq_some.mp hturn
          cases hturn
          cases horder
      | context | transactionActive | provides | emit => cases hturn
  | heard call | lost call =>
      cases call with
      | configure g =>
          obtain ⟨hg, -⟩ := Option.ite_none_right_eq_some.mp hturn
          exact hdeed hg
      | create | job => cases hturn
      | begin g | commit g | rollback g | execute g =>
          obtain ⟨-, hturn⟩ := Option.ite_none_right_eq_some.mp hturn
          cases hturn
          cases horder

/-- A unit of work keeps to its specification from the moment when its handle is
configured. -/
theorem UnitOfWork.keepsTo (hlives : UnitOfWork h spec ds)
    (hserved : Follows (Desk.Serves h) ds (.new h.factory) d) : d.KeepsTo spec.readOnly := by
  obtain ⟨factory, first, rest, rfl, hfirst, hrest⟩ := hlives.configuredOnce
  obtain ⟨_, hcreate, configured, hconfigure, hlater⟩ := hserved
  obtain rfl := hcreate.spared rfl
  have hconfigured : configured.KeepsTo spec.readOnly := by
    rcases hfirst with ⟨reply, rfl⟩ | rfl
    · have hturn : (Desk.new h.factory).Takes ⟨.configure spec.sessionOptions, some reply⟩ _ :=
        hconfigure.taken _ (if_pos rfl)
      have hrests := hturn.rests (Session.rests_new h.factory)
      obtain ⟨_, next, ⟨rfl, hconfigures⟩, rfl⟩ := (Desk.takes_iff rfl).mp hturn
      cases hconfigures with
      | closed hclosed => cases hclosed
      | configured =>
          exact ⟨hrests, rfl, Session.covered_of_idle rfl, trivial⟩
    · have hturn : (Desk.new h.factory).Takes ⟨.configure spec.sessionOptions, none⟩ _ :=
        hconfigure.taken _ (if_pos rfl)
      obtain ⟨_, next, ⟨-, hconfigures⟩, -⟩ := (Desk.takes_iff rfl).mp hturn
      cases hconfigures
  refine Desk.keeps_of_serves hlater ?_ hconfigured
  intro deed hmem turn hturn u w htakes hu
  exact hu.step (WorkDeed.order_ne_configure (hrest deed hmem) hturn) htakes

/-- In a read-only unit of work, transactional or not, every statement that is sent for an
operation is sent where `BEGIN` and `SET TRANSACTION READ ONLY` have succeeded on the same
connection, and the transaction has not been ended since.  In any other unit of work the
latter is never sent. -/
theorem UnitOfWork.sends_read_only (hlives : UnitOfWork h spec ds)
    (hserved : Follows (Desk.Serves h) ds (.new h.factory) d) :
    (spec.readOnly = true → ∀ earlier c statement verdict heard later,
      d.past = earlier ++ .sent c statement verdict heard :: later →
        statement.isControl = false → ReadOnlyOn c earlier) ∧
    (spec.readOnly = false → ∀ c verdict heard, .sent c .setReadOnly verdict heard ∉ d.past) := by
  have hbefits := (hlives.keepsTo hserved).befits
  constructor
  · intro honly earlier c statement verdict heard later hsplit hcontrol
    rw [hsplit] at hbefits
    exact hbefits.allowed_of_split.2 hcontrol honly
  · intro hplain c verdict heard hmem
    obtain ⟨earlier, later, hsplit⟩ := List.append_of_mem hmem
    rw [hsplit] at hbefits
    have honly := hbefits.allowed_of_split.1 rfl
    rw [hplain] at honly
    cases honly

/-- A read-only unit of work in a transaction is opened, and committed; its handle is not
closed yet. -/
def readingCommitted : List (WorkDeed noJobs) :=
  entering { readOnly := true } ++
    ([.did (.transactionActive ⟨0, ⟨0⟩⟩) true, .heard (.commit ⟨0, ⟨0⟩⟩) (.ok ()),
      .did (.emit (.committed defaultUnitName)) ()] ++ [])

/-- An operation that is run on the handle then. -/
def readLater : WorkDeed noJobs :=
  .heard (.execute ⟨0, ⟨0⟩⟩ (.nativeQuery "SELECT 1")) (.ok (.rows 1))

theorem unitOfWork_readLater :
    UnitOfWork ⟨0, ⟨0⟩⟩ { readOnly := true } (readingCommitted ++ [readLater]) := by
  have hstarts : Demarcator.Starts { mode := .deferred } (.lone ⟨0⟩) ⟨0⟩
      (some { readOnly := true }) (entering { readOnly := true }) _ := starts_entering rfl rfl
  have hcompletes : Demarcator.Completes
      { mode := .deferred, current := some (firstWork { readOnly := true }) } ⟨0⟩
      ([.did (.transactionActive ⟨0, ⟨0⟩⟩) true, .heard (.commit ⟨0, ⟨0⟩⟩) (.ok ()),
        .did (.emit (.committed defaultUnitName)) ()] ++ [] : List (WorkDeed noJobs))
      (some (.ok (), { mode := .deferred })) :=
    .completed rfl (.committed (.asked rfl true)) (.deferred rfl)
  exact .used (.completed (.opened hstarts (by decide)) hcompletes) nofun

/-- What passes before the statement of this operation is sent. -/
def beforeReading : List Exchange := [
  .asked (some (.ok ⟨0⟩)), .sent ⟨0⟩ .begin (.ok {}) true, .sent ⟨0⟩ .setReadOnly (.ok {}) true,
  .sent ⟨0⟩ .commit (.ok {}) true, .released ⟨0⟩,
  .asked (some (.ok ⟨1⟩)), .sent ⟨1⟩ .begin (.ok {}) true, .sent ⟨1⟩ .setReadOnly (.ok {}) true]

/-- What passes altogether, and the session that is left. -/
def readLaterDesk : Desk where
  session := { factory := ⟨0⟩, options := { readOnly := true } }
  past := beforeReading ++ [.sent ⟨1⟩ (.native "SELECT 1") (.ok { affected := 1 }) true,
    .sent ⟨1⟩ .commit (.ok {}) true, .released ⟨1⟩]

theorem serves_readLater :
    Follows (Desk.Serves ⟨0, ⟨0⟩⟩) (readingCommitted ++ [readLater]) (.new ⟨0⟩)
      readLaterDesk := by
  have hcommitted : Follows (Desk.Serves ⟨0, ⟨0⟩⟩) readingCommitted (.new ⟨0⟩)
      { readLaterDesk with past := beforeReading.take 5 } := by
    refine follows_append.mpr ⟨_, serves_entering (.begunReadOnly ⟨0⟩ {} rfl {}), ?_⟩
    refine ⟨_, Desk.serves_asked, ?_⟩
    refine ⟨_, Desk.serves_of_conducts ⟨.commit, some (.ok ())⟩ rfl rfl
      (.ended rfl (.ended {})), ?_⟩
    exact ⟨_, Desk.serves_of_none rfl nofun, rfl⟩
  have hruns : Session.Runs ⟨1⟩ (.nativeQuery "SELECT 1")
      [.sent ⟨1⟩ (.native "SELECT 1") (.ok { affected := 1 }) true] (some (.ok (.rows 1))) :=
    .answered rfl (.ok { affected := 1 })
  refine follows_append.mpr ⟨_, hcommitted, _, Desk.serves_of_conducts
    ⟨.execute (.nativeQuery "SELECT 1"), some (.ok (.rows 1))⟩ rfl rfl ⟨?_, rfl⟩, rfl⟩
  exact .readOnly rfl rfl rfl (.ended (.begunReadOnly ⟨1⟩ {} rfl {}) hruns (.ended {}))

/-- It is run in a read-only transaction of its own. -/
theorem reading_sends_read_only : ReadOnlyOn ⟨1⟩ beforeReading :=
  (unitOfWork_readLater.sends_read_only serves_readLater).1 rfl _ _ _ _ _ _ rfl rfl

end UnitOfWork

end Demarcation
