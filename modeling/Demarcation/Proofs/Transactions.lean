/-
The transaction of a session.

A session keeps the connection of its transaction and a flag that tells whether
there is one.  The two are set at different places, and a call may fail or be
dropped in between.  Still they agree whenever no call is in progress
(`Session.Rests`), however pool and server have answered and wherever calls were
dropped.
-/
import Demarcation.Proofs.Orders

namespace Demarcation.Postgres

/-! ## Between two calls -/

/-- The state of a session that no call is in progress on. -/
structure Session.Rests (session : Session) : Prop where
  free : session.locked = false
  active_iff : session.active = true ↔ session.transaction ≠ none
  idle_of_closed : session.closed = true → session.transaction = none

theorem Session.rests_new (factory : FactoryId) : (Desk.new factory).session.Rests where
  free := rfl
  active_iff := by simp [Desk.new]
  idle_of_closed _ := rfl

section Rests

variable {s next : Session} {es : List Exchange}

theorem Session.Rests.active_eq_false (hs : s.Rests) (hidle : s.transaction = none) :
    s.active = false := by
  refine Bool.eq_false_iff.mpr ?_
  intro hactive
  exact hs.active_iff.mp hactive hidle

/-- A session that has given up its transaction, and has lowered the flag. -/
theorem Session.Rests.of_idle (hfree : next.locked = false) (hidle : next.transaction = none)
    (hinactive : next.active = false) : next.Rests where
  free := hfree
  active_iff := by simp [hidle, hinactive]
  idle_of_closed _ := hidle

theorem Session.Begins.rests {reply : Option (Except Failure Unit)}
    (h : s.Begins es reply next) (hs : s.Rests) : next.Rests := by
  cases h with
  | closed | busy | dropped | failed => exact hs
  | begun hopen =>
      constructor
      · exact hs.free
      · simp
      · intro hclosed
        rw [hopen] at hclosed
        cases hclosed

theorem Session.Ends.idle_after {statement : Statement} {failed : String → Failure}
    {reply : Option (Except Failure Unit)} (h : s.Ends statement failed es reply next) :
    next.transaction = none ∧ next.active = false := by
  cases h with
  | idle hidle => exact ⟨hidle, rfl⟩
  | ended => exact ⟨rfl, rfl⟩

theorem Session.Ends.rests {statement : Statement} {failed : String → Failure}
    {reply : Option (Except Failure Unit)} (h : s.Ends statement failed es reply next)
    (hs : s.Rests) : next.Rests := by
  obtain ⟨hidle, hinactive⟩ := h.idle_after
  refine .of_idle ?_ hidle hinactive
  cases h <;> exact hs.free

theorem Session.Closes.rests (h : s.Closes es next) (hs : s.Rests) : next.Rests := by
  cases h with
  | again => exact hs
  | idle _ hidle => exact .of_idle hs.free hidle rfl
  | abandoned => exact .of_idle hs.free rfl rfl

theorem Session.Closes.closed_after (h : s.Closes es next) : next.closed = true := by
  cases h with
  | again hclosed => exact hclosed
  | idle | abandoned => rfl

/-- Every call leaves the session at rest. -/
theorem Order.Conducts.rests {order : Order} {reply : Option order.Reply}
    (h : order.Conducts s es reply next) (hs : s.Rests) : next.Rests := by
  cases order with
  | configure options =>
      obtain ⟨-, h⟩ := h
      cases h with
      | closed => exact hs
      | configured => exact ⟨hs.free, hs.active_iff, hs.idle_of_closed⟩
  | begin => exact Session.Begins.rests h hs
  | commit | rollback => exact Session.Ends.rests h hs
  | execute operation =>
      obtain ⟨-, rfl⟩ := h
      exact hs
  | close => exact Session.Closes.rests h.2 hs

/-- No call opens a session again. -/
theorem Order.Conducts.closed {order : Order} {reply : Option order.Reply}
    (h : order.Conducts s es reply next) (hclosed : s.closed = true) : next.closed = true := by
  cases order with
  | configure options =>
      obtain ⟨-, h⟩ := h
      cases h <;> exact hclosed
  | begin => cases (h : s.Begins es reply next) <;> exact hclosed
  | commit | rollback => cases (h : s.Ends _ _ es reply next) <;> exact hclosed
  | execute operation =>
      obtain ⟨-, rfl⟩ := h
      exact hclosed
  | close => exact h.2.closed_after

/-- The calls that end a transaction. -/
inductive Order.EndsTransaction : Order → Prop where
  | commit : EndsTransaction .commit
  | rollback : EndsTransaction .rollback
  | close : EndsTransaction .close

/-- No transaction is left, whether it could be ended in order or not. -/
theorem Order.EndsTransaction.idle_after {order : Order} {reply : Option order.Reply}
    (hends : order.EndsTransaction) (h : order.Conducts s es reply next) (hs : s.Rests) :
    next.transaction = none ∧ next.active = false := by
  cases hends with
  | commit | rollback => exact Session.Ends.idle_after h
  | close =>
      have hidle := (h.rests hs).idle_of_closed h.2.closed_after
      exact ⟨hidle, (h.rests hs).active_eq_false hidle⟩

end Rests

/-! ## Along a history -/

section History

variable {factory : FactoryId} {turns : List Turn} {d t : Desk}

theorem Desk.Takes.rests {turn : Turn} (h : d.Takes turn t) (hd : d.session.Rests) :
    t.session.Rests := by
  obtain ⟨new, next, hconducts, rfl⟩ := (Desk.takes_iff hd.free).mp h
  exact hconducts.rests hd

theorem Desk.rests_of_follows (h : Follows Desk.Takes turns d t) (hd : d.session.Rests) :
    t.session.Rests :=
  h.keeps (P := fun u : Desk => u.session.Rests) (fun _ _ _ _ hturn hu => hturn.rests hu) hd

/-- A closed session stays closed, and never has a transaction again. -/
theorem Desk.idle_of_closed (h : Follows Desk.Takes turns d t) (hd : d.session.Rests)
    (hclosed : d.session.closed = true) :
    t.session.closed = true ∧ t.session.transaction = none ∧ t.session.active = false := by
  have hkept : t.session.Rests ∧ t.session.closed = true := by
    refine h.keeps (P := fun u => u.session.Rests ∧ u.session.closed = true) ?_ ⟨hd, hclosed⟩
    rintro turn - u w hturn ⟨hu, huclosed⟩
    obtain ⟨new, next, hconducts, rfl⟩ := (Desk.takes_iff hu.free).mp hturn
    exact ⟨hconducts.rests hu, hconducts.closed huclosed⟩
  obtain ⟨hrests, hclosed⟩ := hkept
  have hidle := hrests.idle_of_closed hclosed
  exact ⟨hclosed, hidle, hrests.active_eq_false hidle⟩

/-- A begin while there is a transaction fails, and that is all it does. -/
theorem Desk.takes_begin_iff_of_busy (hd : d.session.Rests) (hopen : d.session.closed = false)
    (hbusy : d.session.transaction ≠ none) {reply : Option (Except Failure Unit)} :
    d.Takes ⟨.begin, reply⟩ t ↔ reply = some (.error .transactionInProgress) ∧ t = d := by
  rw [Desk.takes_iff hd.free]
  constructor
  · rintro ⟨new, next, h, rfl⟩
    cases (h : d.session.Begins new reply next) with
    | closed h => rw [hopen] at h; cases h
    | busy => exact ⟨rfl, Desk.add_nil d⟩
    | dropped _ hidle | failed _ hidle | begun _ hidle => exact absurd hidle hbusy
  · rintro ⟨rfl, rfl⟩
    exact ⟨[], _, .busy hopen (Option.isSome_iff_ne_none.mpr hbusy), (Desk.add_nil t).symm⟩

/-- A begin that does not succeed, where there was no transaction. -/
theorem Desk.Takes.idle_of_begin_failed {reply : Option (Except Failure Unit)}
    (h : d.Takes ⟨.begin, reply⟩ t) (hd : d.session.Rests) (hidle : d.session.transaction = none)
    (hreply : reply ≠ some (.ok ())) : t.session.transaction = none := by
  obtain ⟨new, next, hbegins, rfl⟩ := (Desk.takes_iff hd.free).mp h
  cases (hbegins : d.session.Begins new reply next) with
  | closed | busy | dropped | failed => exact hidle
  | begun => exact absurd rfl hreply

theorem Desk.Takes.idle_of_ends {turn : Turn} (h : d.Takes turn t) (hd : d.session.Rests)
    (hends : turn.order.EndsTransaction) :
    t.session.transaction = none ∧ t.session.active = false := by
  obtain ⟨new, next, hconducts, rfl⟩ := (Desk.takes_iff hd.free).mp h
  exact hends.idle_after hconducts hd

/-- A session can be closed at any time, and is closed then. -/
theorem Desk.exists_takes_close (hd : d.session.Rests) : ∃ t, d.Takes ⟨.close, some ()⟩ t := by
  have hcloses : ∃ new next, d.session.Closes new next := by
    by_cases hclosed : d.session.closed = true
    · exact ⟨_, _, .again hclosed⟩
    · rw [Bool.not_eq_true] at hclosed
      cases hbusy : d.session.transaction with
      | none => exact ⟨_, _, .idle hclosed hbusy⟩
      | some connection => exact ⟨_, _, .abandoned hclosed hbusy⟩
  obtain ⟨new, next, hcloses⟩ := hcloses
  exact ⟨_, (Desk.takes_iff hd.free).mpr ⟨new, next, ⟨rfl, hcloses⟩, rfl⟩⟩

theorem Desk.Takes.closed_of_close {reply : Option Unit} (h : d.Takes ⟨.close, reply⟩ t)
    (hd : d.session.Rests) : reply = some () ∧ t.session.closed = true := by
  obtain ⟨new, next, ⟨hreply, hcloses⟩, rfl⟩ := (Desk.takes_iff hd.free).mp h
  exact ⟨hreply, hcloses.closed_after⟩

/-- After any calls on a new session, each completed, failed or dropped, the flag
tells whether there is a transaction.  The session can be closed, and closing it ends the
transaction and lowers the flag; a closed session stays closed, and has no transaction for
ever.  A begin on an open session that has one fails, and leaves it; any other begin that
fails or is dropped leaves none, and so does a commit or a rollback, whatever becomes of
it. -/
theorem Desk.transaction_in_step (h : Follows Desk.Takes turns (.new factory) d) :
    (d.session.active = true ↔ d.session.transaction ≠ none) ∧
      (d.session.closed = true → ∀ later t, Follows Desk.Takes later d t →
        t.session.closed = true ∧ t.session.transaction = none ∧ t.session.active = false) ∧
      ((∃ t, d.Takes ⟨.close, some ()⟩ t) ∧ ∀ reply t, d.Takes ⟨.close, reply⟩ t →
        reply = some () ∧ t.session.closed = true ∧ t.session.transaction = none ∧
          t.session.active = false) ∧
      (d.session.closed = false → d.session.transaction ≠ none → ∀ reply t,
        d.Takes ⟨.begin, reply⟩ t ↔ reply = some (.error .transactionInProgress) ∧ t = d) ∧
      (d.session.closed = true ∨ d.session.transaction = none → ∀ reply t,
        d.Takes ⟨.begin, reply⟩ t → reply ≠ some (.ok ()) → t.session.transaction = none) ∧
      (∀ reply t, d.Takes ⟨.commit, reply⟩ t → t.session.transaction = none) ∧
      ∀ reply t, d.Takes ⟨.rollback, reply⟩ t → t.session.transaction = none := by
  have hd : d.session.Rests := Desk.rests_of_follows h (Session.rests_new factory)
  refine ⟨hd.active_iff, ?closed, ⟨Desk.exists_takes_close hd, ?close⟩, ?busy, ?begin, ?commit,
    ?rollback⟩
  case closed =>
    intro hclosed later t hlater
    exact Desk.idle_of_closed hlater hd hclosed
  case close =>
    intro reply t hturn
    obtain ⟨hreply, hclosed⟩ := hturn.closed_of_close hd
    exact ⟨hreply, hclosed, hturn.idle_of_ends hd .close⟩
  case busy =>
    intro hopen hbusy reply t
    exact Desk.takes_begin_iff_of_busy hd hopen hbusy
  case begin =>
    intro hor reply t hturn hreply
    have hidle : d.session.transaction = none := hor.elim hd.idle_of_closed id
    exact hturn.idle_of_begin_failed hd hidle hreply
  case commit =>
    intro reply t hturn
    exact (hturn.idle_of_ends hd .commit).1
  case rollback =>
    intro reply t hturn
    exact (hturn.idle_of_ends hd .rollback).1

/-- A session that is told to be read-only begins a transaction, which the server does
not let it do; it is told otherwise, and begins another one. -/
def retrying : List Turn := [
  ⟨.configure { readOnly := true }, some (.ok ())⟩,
  ⟨.begin, some (.error (.database (.server "no")))⟩,
  ⟨.configure {}, some (.ok ())⟩,
  ⟨.begin, some (.ok ())⟩]

/-- What it has come to. -/
def retried : Desk where
  session := { factory := ⟨0⟩, transaction := some ⟨1⟩, active := true }
  past := [
    .asked (some (.ok ⟨0⟩)), .sent ⟨0⟩ .begin (.ok {}) true,
    .sent ⟨0⟩ .setReadOnly (.error (.server "no")) true, .discarded ⟨0⟩,
    .asked (some (.ok ⟨1⟩)), .sent ⟨1⟩ .begin (.ok {}) true]

theorem follows_retrying : Follows Desk.Takes retrying (.new ⟨0⟩) retried := by
  refine ⟨_, (Desk.takes_iff rfl).mpr ⟨_, _, ⟨rfl, .configured rfl⟩, rfl⟩, ?_⟩
  refine ⟨_, (Desk.takes_iff rfl).mpr ⟨_, _, .failed rfl rfl (.setRefused ⟨0⟩ {} rfl _), rfl⟩, ?_⟩
  refine ⟨_, (Desk.takes_iff rfl).mpr ⟨_, _, ⟨rfl, .configured rfl⟩, rfl⟩, ?_⟩
  exact ⟨_, (Desk.takes_iff rfl).mpr ⟨_, _, .begun rfl rfl (.begun ⟨1⟩ {} rfl), rfl⟩, rfl⟩

/-- Its transaction is active, and can not be begun again.  Closing ends it; the connection
is left to be rolled back. -/
theorem retried_busy :
    retried.session.active = true ∧
      retried.Takes ⟨.begin, some (.error .transactionInProgress)⟩ retried ∧
      ∃ t : Desk, retried.Takes ⟨.close, some ()⟩ t ∧
        t.past = retried.past ++ [.discarded ⟨1⟩] ∧ t.session.closed = true ∧
        t.session.transaction = none ∧ t.session.active = false := by
  obtain ⟨hactive, -, ⟨-, hclose⟩, hbusy, -⟩ := Desk.transaction_in_step follows_retrying
  have htransaction : retried.session.transaction ≠ none := Option.some_ne_none _
  refine ⟨hactive.mpr htransaction, (hbusy rfl htransaction _ _).mpr ⟨rfl, rfl⟩, ?_⟩
  have htakes : retried.Takes ⟨.close, some ()⟩ _ :=
    (Desk.takes_iff rfl).mpr ⟨_, _, ⟨rfl, .abandoned rfl rfl⟩, rfl⟩
  exact ⟨_, htakes, rfl, (hclose _ _ htakes).2⟩

end History

end Demarcation.Postgres
