/-
How the transactions of a session end.

A transaction that was begun for a session is ended on its connection, by `COMMIT`,
by `ROLLBACK` or by discarding the connection, before the connection serves anything
else, and a session that is closed has no connection.  That much is owed
(`Accounted.owed`).  `Order.MayCommit` says when `COMMIT` is sent.

Only a `BEGIN` that the server has refused is not ended: there is nothing to end.
-/
import Demarcation.Proofs.Visits

namespace Demarcation.Postgres

/-! ## Who commits -/

section Commits

variable {c : Connection} {op : Operation} {es : List Exchange}
  {verdict : Except DatabaseFailure ServerAnswer} {heard : Bool}

theorem Session.Opens.commit_notMem {readOnly : Bool}
    {opened? : Option (Except DatabaseFailure Connection)}
    (h : Session.Opens readOnly es opened?) : .sent c .commit verdict heard ∉ es := by
  cases h <;> simp

theorem Session.Runs.commit_notMem {d : Connection} {v : Option (Except Failure Outcome)}
    (h : Session.Runs d op es v) : .sent c .commit verdict heard ∉ es := by
  intro hmem
  cases (h.operatesOn _ hmem).2

/-- An element that occurs once tells where a list is split at it. -/
theorem eq_of_split {α : Type} {before rest pre post : List α} {x y : α}
    (h : before ++ x :: rest = pre ++ y :: post) (hbefore : y ∉ before) (hrest : y ∉ rest) :
    pre = before ∧ x = y := by
  rcases List.append_eq_append_iff.mp h with ⟨as, rfl, hcons⟩ | ⟨as, rfl, hcons⟩
  · cases as with
    | nil =>
        obtain ⟨hhead, -⟩ := List.cons.inj hcons
        exact ⟨List.append_nil _, hhead⟩
    | cons a as =>
        obtain ⟨-, htail⟩ := List.cons.inj hcons
        exact absurd (by rw [htail]; simp) hrest
  · cases as with
    | nil =>
        obtain ⟨hhead, -⟩ := List.cons.inj hcons
        exact ⟨(List.append_nil _).symm, hhead.symm⟩
    | cons a as =>
        obtain ⟨hhead, -⟩ := List.cons.inj hcons
        exact absurd (by rw [hhead]; simp) hbefore

/-- What must have passed in a call before it sends `COMMIT` on `c`: nothing, if it was
asked to commit the transaction; else the operation has been run on `c` with success, in
a read-only transaction of its own. -/
def Order.MayCommit (session : Session) (c : Connection) (before : List Exchange) : Order → Prop
  | .commit => session.transaction = some c ∧ before = []
  | .execute operation => session.transaction = none ∧ session.options.readOnly = true ∧
      ∃ opened ran outcome, before = opened ++ ran ∧
        Session.Opens true opened (some (.ok c)) ∧
        Session.Runs c operation ran (some (.ok outcome))
  | _ => False

theorem Session.EndsBy.commit_split {d : Connection} {st : Statement}
    {ended? : Option (Except DatabaseFailure Unit)} (h : Session.EndsBy d st es ended?)
    {first pre post : List Exchange} (hfirst : .sent c .commit verdict heard ∉ first)
    (hsplit : first ++ es = pre ++ .sent c .commit verdict heard :: post) :
    pre = first ∧ d = c ∧ st = .commit := by
  have hhead : ∀ {v : Except DatabaseFailure ServerAnswer} {b : Bool} {rest : List Exchange},
      es = .sent d st v b :: rest → .sent c .commit verdict heard ∉ rest →
        pre = first ∧ d = c ∧ st = .commit := by
    rintro v b rest rfl hrest
    obtain ⟨hpre, heq⟩ := eq_of_split hsplit hfirst hrest
    cases heq
    exact ⟨hpre, rfl, rfl⟩
  cases h with
  | dropped | refused | ended => exact hhead rfl (by simp)

theorem Session.RunsReadOnly.mayCommit {v : Option (Except Failure Outcome)}
    (h : Session.RunsReadOnly op es v) {pre post : List Exchange}
    (hsplit : es = pre ++ .sent c .commit verdict heard :: post) :
    ∃ opened ran outcome, pre = opened ++ ran ∧ Session.Opens true opened (some (.ok c)) ∧
      Session.Runs c op ran (some (.ok outcome)) := by
  have hmem : .sent c .commit verdict heard ∈ es := by
    rw [hsplit]
    simp
  cases h with
  | openDropped hopens | unopened hopens => exact absurd hmem hopens.commit_notMem
  | runDropped hopens hruns | failed hopens hruns =>
      simp [hopens.commit_notMem, hruns.commit_notMem] at hmem
  | @ended opened ran _ _ outcome _ hopens hruns hends =>
      rw [← List.append_assoc] at hsplit
      obtain ⟨rfl, rfl, -⟩ := hends.commit_split
        (by simp [hopens.commit_notMem, hruns.commit_notMem]) hsplit
      exact ⟨opened, ran, outcome, rfl, hopens, hruns⟩

theorem Order.Conducts.mayCommit {s next : Session} {order : Order} {reply : Option order.Reply}
    (h : order.Conducts s es reply next) {pre post : List Exchange}
    (hsplit : es = pre ++ .sent c .commit verdict heard :: post) : order.MayCommit s c pre := by
  have hmem : .sent c .commit verdict heard ∈ es := by
    rw [hsplit]
    simp
  cases order with
  | configure options =>
      obtain ⟨rfl, -⟩ := h
      cases hmem
  | begin =>
      cases (h : s.Begins es reply next) with
      | closed | busy => cases hmem
      | dropped _ _ hopens | failed _ _ hopens | begun _ _ hopens =>
          exact absurd hmem hopens.commit_notMem
  | commit =>
      cases (h : s.Ends .commit _ es reply next) with
      | idle => cases hmem
      | ended hbusy hends =>
          obtain ⟨rfl, rfl, -⟩ := hends.commit_split (List.not_mem_nil) hsplit
          exact ⟨hbusy, rfl⟩
  | rollback =>
      cases (h : s.Ends .rollback _ es reply next) with
      | idle => cases hmem
      | ended _ hends =>
          obtain ⟨-, -, hst⟩ := hends.commit_split (List.not_mem_nil) hsplit
          cases hst
  | execute operation =>
      cases h.1 with
      | closed => cases hmem
      | inTransaction _ _ hruns => exact absurd hmem hruns.commit_notMem
      | readOnly _ hidle honly hruns => exact ⟨hidle, honly, hruns.mayCommit hsplit⟩
      | plain _ _ _ hruns =>
          cases hruns with
          | abandoned | unlent => simp at hmem
          | ran hruns => simp [hruns.commit_notMem] at hmem
  | close => cases h.2 <;> simp at hmem

end Commits

/-! ## What passes on the wire -/

section History

variable {factory : FactoryId} {turns : List Turn} {d : Desk}

/-- After any calls on a new session, each completed, failed or dropped: if it is closed
now, each `BEGIN` that was sent is ended by a `COMMIT`, by a `ROLLBACK` or by discarding
the connection before the connection serves anything else, unless the session was told
that the server had refused it; and the session has no connection.  An operation that is
executed while there is a transaction sends its statement on the connection of this
transaction, after its `BEGIN` and before its end.  And `COMMIT` is sent only when
committing is asked for, or when an operation has been run with success in a read-only
transaction of its own. -/
theorem Desk.ends_transactions (h : Follows Desk.Takes turns (.new factory) d) :
    (∀ reply t, d.Takes ⟨.close, reply⟩ t →
      (∀ earlier c verdict heard later,
        t.past = earlier ++ .sent c .begin verdict heard :: later →
          (∀ failure, verdict = .error failure → heard = false) → EndedOn c later) ∧
      t.session.transaction = none ∧
      ∀ earlier c later, t.past = earlier ++ .asked (some (.ok c)) :: later → GivenBack c later) ∧
    (∀ operation reply t c, d.Takes ⟨.execute operation, reply⟩ t →
      d.session.transaction = some c →
        ∃ earlier current new, d.past = earlier ++ current ∧ t.past = d.past ++ new ∧
          (∀ e ∈ new, e.OperatesOn c) ∧ Running c (current ++ new)) ∧
    ∀ turn t, d.Takes turn t → ∃ new, t.past = d.past ++ new ∧
      ∀ before c verdict heard after, new = before ++ .sent c .commit verdict heard :: after →
        turn.order.MayCommit d.session c before := by
  have hrests : d.session.Rests := Desk.rests_of_follows h (Session.rests_new factory)
  have hpast : Accounted d.session.transaction d.past := Desk.accounted h
  refine ⟨?_, ?_, ?_⟩
  · intro reply t hturn
    obtain ⟨new, next, hconducts, rfl⟩ := (Desk.takes_iff hrests.free).mp hturn
    have hidle : next.transaction = none := by
      cases (show d.session.Closes new next from hconducts.2) with
      | again hclosed => exact hrests.idle_of_closed hclosed
      | idle _ hidle => exact hidle
      | abandoned => rfl
    have howed := Order.Conducts.accounted hconducts hpast
    rw [hidle] at howed
    refine ⟨?_, hidle, ?_⟩
    · intro earlier c verdict heard later hsplit hheard
      have hbegun := howed.owed.1
      rw [show d.past ++ new = _ from hsplit] at hbegun
      refine hbegun.met_of_split ?_
      rcases verdict with failure | a
      · rw [hheard failure rfl]
        rfl
      · rfl
    · intro earlier c later hsplit
      have hlent := howed.owed.2
      rw [show d.past ++ new = _ from hsplit] at hlent
      exact hlent.met_of_split rfl
  · intro operation reply t c hturn hbusy
    obtain ⟨new, next, ⟨hexecutes, -⟩, rfl⟩ := (Desk.takes_iff hrests.free).mp hturn
    rw [hbusy] at hpast
    obtain ⟨visits, current, hsplit, -, hrunning⟩ := hpast
    have hoperates : ∀ e ∈ new, e.OperatesOn c := by
      cases hexecutes with
      | closed => simp
      | inTransaction _ h hruns =>
          obtain rfl := Option.some.inj (hbusy.symm.trans h)
          exact hruns.operatesOn
      | readOnly _ hidle | plain _ hidle =>
          rw [hbusy] at hidle
          cases hidle
    exact ⟨visits.flatten, current, new, hsplit, rfl, hoperates,
      Running.append hrunning fun e he => (hoperates e he).within⟩
  · intro turn t hturn
    obtain ⟨new, next, hconducts, rfl⟩ := (Desk.takes_iff hrests.free).mp hturn
    refine ⟨new, rfl, ?_⟩
    intro before c verdict heard after hsplit
    exact hconducts.mayCommit hsplit

/-- When the transaction that `retrying` has begun is closed, its connection is discarded
right after its `BEGIN`. -/
theorem retried_closed_ended :
    ∃ t, retried.Takes ⟨.close, some ()⟩ t ∧ t.session.transaction = none ∧
      EndedOn ⟨1⟩ [.discarded ⟨1⟩] := by
  have hclose : retried.Takes ⟨.close, some ()⟩ _ :=
    (Desk.takes_iff rfl).mpr ⟨_, _, ⟨rfl, .abandoned rfl rfl⟩, rfl⟩
  obtain ⟨hclosed, -, -⟩ := Desk.ends_transactions follows_retrying
  obtain ⟨hended, hidle, -⟩ := hclosed _ _ hclose
  exact ⟨_, hclose, hidle, hended (retried.past.take 5) ⟨1⟩ (.ok {}) true _ rfl (by simp)⟩

/-- A begin that the server refuses, an operation on the same connection, and the end. -/
def refusing : List Turn := [
  ⟨.begin, some (.error (.database (.server "no")))⟩,
  ⟨.execute (.nativeQuery "SELECT 1"), some (.ok (.rows 1))⟩,
  ⟨.close, some ()⟩]

/-- What it has come to. -/
def refused : Desk where
  session := { factory := ⟨0⟩, closed := true }
  past := [
    .asked (some (.ok ⟨0⟩)), .sent ⟨0⟩ .begin (.error (.server "no")) true, .released ⟨0⟩,
    .asked (some (.ok ⟨0⟩)), .sent ⟨0⟩ (.native "SELECT 1") (.ok { affected := 1 }) true,
    .released ⟨0⟩]

/-- A `BEGIN` that the server has refused is not ended: the connection goes back to the
pool as it is, and serves the next operation. -/
theorem refused_not_ended :
    Follows Desk.Takes refusing (.new ⟨0⟩) refused ∧
      ∃ earlier later, refused.past =
          earlier ++ .sent ⟨0⟩ .begin (.error (.server "no")) true :: later ∧
        ¬ EndedOn ⟨0⟩ later := by
  constructor
  · have hbegin : (Desk.new ⟨0⟩).session.Begins _ _ _ :=
      .failed rfl rfl (.beginRefused ⟨0⟩ (.server "no"))
    have hruns : Session.Runs ⟨0⟩ (.nativeQuery "SELECT 1")
        [.sent ⟨0⟩ (.native "SELECT 1") (.ok { affected := 1 }) true] (some (.ok (.rows 1))) :=
      .answered rfl (.ok { affected := 1 })
    refine ⟨_, (Desk.takes_iff rfl).mpr ⟨_, _, hbegin, rfl⟩, ?_⟩
    refine ⟨_, (Desk.takes_iff rfl).mpr ⟨_, _, ⟨.plain rfl rfl rfl (.ran hruns), rfl⟩, rfl⟩, ?_⟩
    exact ⟨_, (Desk.takes_iff rfl).mpr ⟨_, _, ⟨rfl, .idle rfl rfl⟩, rfl⟩, rfl⟩
  · refine ⟨[_], _, rfl, ?_⟩
    rintro ⟨_ | ⟨e, inside⟩, ending, rest, hsplit, hinside, hending⟩
    · cases hsplit
      cases hending
    · obtain ⟨rfl, -⟩ := List.cons.inj hsplit
      exact hinside _ List.mem_cons_self

end History

end Demarcation.Postgres
