/-
Visits to the pool.

What a session exchanges falls into visits to the pool.  A visit begins when a
connection is asked for and ends when it is given back, and nothing is exchanged in
between but statements on that connection.  A transaction takes place within one
visit: `Running` says how the visit goes on while there is one, and `Visit` lists how
visits end.  `Desk.accounted` is the invariant: the past of a session is a number of
visits, and one more that is not over if there is a transaction.

So every transaction is ended on its connection before the connection is given back.
SQL of the application is taken not to control transactions, and a connection that is
discarded to be rolled back before it is used again.
-/
import Demarcation.Proofs.Transactions

namespace Demarcation.Postgres

/-! ## Statements of a transaction -/

namespace Statement

/-- The statement begins a transaction or ends one. -/
def isBoundary : Statement → Bool
  | .begin | .commit | .rollback => true
  | .setReadOnly | .native _ | .select .. | .insert .. | .upsert .. | .delete .. => false

/-- The statement begins a transaction, ends one, or sets what it may do. -/
def isControl (statement : Statement) : Bool :=
  match statement with
  | .setReadOnly => true
  | _ => statement.isBoundary

theorem isBoundary_of_not_control {st : Statement} (h : st.isControl = false) :
    st.isBoundary = false := by
  cases st with
  | begin | commit | rollback => exact h
  | setReadOnly | native | select | insert | upsert | delete => rfl

end Statement

theorem exists_of_map_ok {ε α β : Type} {x : Except ε α} {f : α → β} {b : β}
    (h : x.map f = .ok b) : ∃ a, f a = b := by
  cases x with
  | error => cases h
  | ok a => exact ⟨a, Except.ok.inj h⟩

/-- Operations do not control transactions. -/
theorem isControl_of_sends {op : Operation} {st : Statement}
    (h : op.statement? = .ok (some st)) : st.isControl = false := by
  cases op with
  | flush | joinTransaction => cases h
  | nativeQuery =>
      cases h
      rfl
  | find | contains | refresh | persist | merge | remove =>
      obtain ⟨table, htable⟩ := exists_of_map_ok h
      cases htable
      rfl

namespace Exchange

/-- An operation has sent a statement on `c`. -/
def OperatesOn (c : Connection) : Exchange → Prop
  | .sent other statement _ _ => other = c ∧ statement.isControl = false
  | _ => False

/-- A statement on `c` that neither begins nor ends a transaction. -/
def Within (c : Connection) : Exchange → Prop
  | .sent other statement _ _ => other = c ∧ statement.isBoundary = false
  | _ => False

theorem OperatesOn.within {c : Connection} {e : Exchange} (h : e.OperatesOn c) : e.Within c := by
  cases e with
  | sent => exact ⟨h.1, Statement.isBoundary_of_not_control h.2⟩
  | asked | released | discarded => exact h

end Exchange

section Running

variable {c : Connection} {op : Operation} {es fs : List Exchange} {readOnly : Bool}

theorem Session.Runs.operatesOn {v : Option (Except Failure Outcome)}
    (h : Session.Runs c op es v) : ∀ e ∈ es, e.OperatesOn c := by
  cases h with
  | unnamed | unsent => simp
  | answered hsends | dropped hsends =>
      intro e he
      obtain rfl := List.mem_singleton.mp he
      exact ⟨rfl, isControl_of_sends hsends⟩

/-- A visit that is not over: a transaction has been begun on `c`, and it has not been
ended. -/
def Running (c : Connection) (exchanges : List Exchange) : Prop :=
  ∃ answer inside, exchanges =
      .asked (some (.ok c)) :: .sent c .begin (.ok answer) true :: inside ∧
    ∀ e ∈ inside, e.Within c

theorem Running.append (h : Running c es) (hfs : ∀ e ∈ fs, e.Within c) :
    Running c (es ++ fs) := by
  obtain ⟨a, inside, rfl, hinside⟩ := h
  exact ⟨a, inside ++ fs, rfl, List.forall_mem_append.mpr ⟨hinside, hfs⟩⟩

theorem Session.Opens.running (h : Session.Opens readOnly es (some (.ok c))) : Running c es := by
  cases h with
  | begun _ a => exact ⟨a, [], rfl, by simp⟩
  | begunReadOnly _ a _ b =>
      exact ⟨a, [.sent c .setReadOnly (.ok b) true], rfl, by simp [Exchange.Within,
        Statement.isBoundary]⟩

/-! ## Visits that are over -/

/-- What passes from asking for a connection to giving it back. -/
inductive Visit : List Exchange → Prop where
  | unlent {reply : Option (Except DatabaseFailure Connection)}
      (unlent : ∀ connection, reply ≠ some (.ok connection)) : Visit [.asked reply]
  | plain {connection : Connection} {ran : List Exchange}
      (operates : ∀ e ∈ ran, e.OperatesOn connection) :
      Visit (.asked (some (.ok connection)) :: (ran ++ [.released connection]))
  | refused (connection : Connection) (failure : DatabaseFailure) :
      Visit [.asked (some (.ok connection)), .sent connection .begin (.error failure) true,
        .released connection]
  | dropped (connection : Connection) (verdict : Except DatabaseFailure ServerAnswer) :
      Visit [.asked (some (.ok connection)), .sent connection .begin verdict false,
        .discarded connection]
  | discarded {connection : Connection} {begun : List Exchange}
      (running : Running connection begun) : Visit (begun ++ [.discarded connection])
  | ended {connection : Connection} {begun ending : List Exchange} {statement : Statement}
      {ended? : Option (Except DatabaseFailure Unit)} (running : Running connection begun)
      (boundary : statement = .commit ∨ statement = .rollback)
      (ends : Session.EndsBy connection statement ending ended?) : Visit (begun ++ ending)

theorem Session.Opens.visit {opened? : Option (Except DatabaseFailure Connection)}
    (h : Session.Opens readOnly es opened?) (hopened : ∀ c, opened? ≠ some (.ok c)) : Visit es := by
  cases h with
  | abandoned => exact .unlent (by simp)
  | unlent => exact .unlent (by simp)
  | beginDropped c verdict => exact .dropped c verdict
  | beginRefused c failure => exact .refused c failure
  | begun c | begunReadOnly c => exact absurd rfl (hopened c)
  | setDropped c a _ verdict =>
      have hrunning : Running c [.asked (some (.ok c)), .sent c .begin (.ok a) true,
          .sent c .setReadOnly verdict false] :=
        ⟨a, _, rfl, by simp [Exchange.Within, Statement.isBoundary]⟩
      exact .discarded hrunning
  | setRefused c a _ failure =>
      have hrunning : Running c [.asked (some (.ok c)), .sent c .begin (.ok a) true,
          .sent c .setReadOnly (.error failure) true] :=
        ⟨a, _, rfl, by simp [Exchange.Within, Statement.isBoundary]⟩
      exact .discarded hrunning

theorem Session.RunsReadOnly.visit {v : Option (Except Failure Outcome)}
    (h : Session.RunsReadOnly op es v) : Visit es := by
  have hran : ∀ {opened ran : List Exchange} {c : Connection} {v : Option (Except Failure Outcome)},
      Session.Opens true opened (some (.ok c)) → Session.Runs c op ran v →
        Running c (opened ++ ran) := by
    intro opened ran c v hopens hruns
    exact hopens.running.append fun e he => (hruns.operatesOn e he).within
  cases h with
  | openDropped hopens => exact hopens.visit (by simp)
  | unopened hopens => exact hopens.visit (by simp)
  | runDropped hopens hruns | failed hopens hruns =>
      rw [← List.append_assoc]
      exact .discarded (hran hopens hruns)
  | ended hopens hruns hends =>
      rw [← List.append_assoc]
      exact .ended (hran hopens hruns) (Or.inl rfl) hends

theorem Session.RunsPlain.visit {v : Option (Except Failure Outcome)}
    (h : Session.RunsPlain op es v) : Visit es := by
  cases h with
  | abandoned => exact .unlent (by simp)
  | unlent => exact .unlent (by simp)
  | ran hruns => exact .plain hruns.operatesOn

/-! ## The past of a session -/

/-- The exchanges since the last visit was over: there are none unless there is a
transaction. -/
def Current : Option Connection → List Exchange → Prop
  | none, exchanges => exchanges = []
  | some c, exchanges => Running c exchanges

/-- The past of a session is made of visits, and of the one that its transaction takes
place in. -/
def Accounted (transaction : Option Connection) (past : List Exchange) : Prop :=
  ∃ visits current, past = List.flatten visits ++ current ∧ (∀ visit ∈ visits, Visit visit) ∧
    Current transaction current

theorem accounted_nil : Accounted none [] := ⟨[], [], rfl, by simp, rfl⟩

theorem Accounted.visit {past : List Exchange} (h : Accounted none past) (hes : Visit es) :
    Accounted none (past ++ es) := by
  obtain ⟨visits, _, rfl, hvisits, rfl⟩ := h
  refine ⟨visits ++ [es], [], by simp, ?_, rfl⟩
  exact List.forall_mem_append.mpr ⟨hvisits, by simpa using hes⟩

theorem Accounted.opened {past : List Exchange} (h : Accounted none past) (hes : Running c es) :
    Accounted (some c) (past ++ es) := by
  obtain ⟨visits, _, rfl, hvisits, rfl⟩ := h
  exact ⟨visits, es, by simp, hvisits, hes⟩

theorem Accounted.append {past : List Exchange} (h : Accounted (some c) past)
    (hes : ∀ e ∈ es, e.Within c) : Accounted (some c) (past ++ es) := by
  obtain ⟨visits, current, rfl, hvisits, hcurrent⟩ := h
  exact ⟨visits, current ++ es, by simp, hvisits, Running.append hcurrent hes⟩

/-- The visit in progress comes to its end. -/
theorem Accounted.over {past : List Exchange} (h : Accounted (some c) past)
    (hes : ∀ begun, Running c begun → Visit (begun ++ es)) : Accounted none (past ++ es) := by
  obtain ⟨visits, current, rfl, hvisits, hcurrent⟩ := h
  refine ⟨visits ++ [current ++ es], [], by simp, ?_, rfl⟩
  exact List.forall_mem_append.mpr ⟨hvisits, by simpa using hes current hcurrent⟩

end Running

section Accounted

variable {s next : Session} {past new : List Exchange}

theorem Session.Begins.accounted {reply : Option (Except Failure Unit)}
    (h : s.Begins new reply next) (hpast : Accounted s.transaction past) :
    Accounted next.transaction (past ++ new) := by
  cases h with
  | closed | busy => simpa using hpast
  | dropped _ hidle hopens | failed _ hidle hopens =>
      rw [hidle] at hpast ⊢
      exact hpast.visit (hopens.visit (by simp))
  | begun _ hidle hopens =>
      rw [hidle] at hpast
      exact hpast.opened hopens.running

theorem Session.Ends.accounted {statement : Statement} {failed : String → Failure}
    {reply : Option (Except Failure Unit)} (h : s.Ends statement failed new reply next)
    (hstatement : statement = .commit ∨ statement = .rollback)
    (hpast : Accounted s.transaction past) : Accounted next.transaction (past ++ new) := by
  cases h with
  | idle hidle => simpa using hpast
  | ended hbusy hends =>
      rw [hbusy] at hpast
      exact hpast.over fun begun hbegun => .ended hbegun hstatement hends

theorem Session.Executes.accounted {operation : Operation} {v : Option (Except Failure Outcome)}
    (h : s.Executes operation new v) (hpast : Accounted s.transaction past) :
    Accounted s.transaction (past ++ new) := by
  cases h with
  | closed => simpa using hpast
  | inTransaction _ hbusy hruns =>
      rw [hbusy] at hpast ⊢
      exact hpast.append fun e he => (hruns.operatesOn e he).within
  | readOnly _ hidle _ hruns =>
      rw [hidle] at hpast ⊢
      exact hpast.visit hruns.visit
  | plain _ hidle _ hruns =>
      rw [hidle] at hpast ⊢
      exact hpast.visit hruns.visit

theorem Session.Closes.accounted (h : s.Closes new next) (hpast : Accounted s.transaction past) :
    Accounted next.transaction (past ++ new) := by
  cases h with
  | again | idle => simpa using hpast
  | abandoned _ hbusy =>
      rw [hbusy] at hpast
      exact hpast.over fun begun hbegun => .discarded hbegun

theorem Order.Conducts.accounted {order : Order} {reply : Option order.Reply}
    (h : order.Conducts s new reply next) (hpast : Accounted s.transaction past) :
    Accounted next.transaction (past ++ new) := by
  cases order with
  | configure options =>
      obtain ⟨rfl, h⟩ := h
      cases h <;> simpa using hpast
  | begin => exact Session.Begins.accounted h hpast
  | commit => exact Session.Ends.accounted h (Or.inl rfl) hpast
  | rollback => exact Session.Ends.accounted h (Or.inr rfl) hpast
  | execute operation =>
      obtain ⟨h, rfl⟩ := h
      exact h.accounted hpast
  | close => exact Session.Closes.accounted h.2 hpast

theorem Desk.Takes.accounted {turn : Turn} {d t : Desk} (h : d.Takes turn t)
    (hrests : d.session.Rests) (hpast : Accounted d.session.transaction d.past) :
    Accounted t.session.transaction t.past := by
  obtain ⟨new, next, hconducts, rfl⟩ := (Desk.takes_iff hrests.free).mp h
  exact hconducts.accounted hpast

/-- The past of a desk, however it has come about. -/
theorem Desk.accounted {factory : FactoryId} {turns : List Turn} {d : Desk}
    (h : Follows Desk.Takes turns (.new factory) d) :
    Accounted d.session.transaction d.past := by
  have hkept : d.session.Rests ∧ Accounted d.session.transaction d.past := by
    refine h.keeps (P := fun u : Desk => u.session.Rests ∧ Accounted u.session.transaction u.past)
      ?_ ⟨Session.rests_new factory, accounted_nil⟩
    rintro turn - u w hturn ⟨hrests, hpast⟩
    exact ⟨hturn.rests hrests, hturn.accounted hrests hpast⟩
  exact hkept.2

end Accounted

/-! ## What is owed -/

/-- What an exchange `needs` on a connection is `met` by those that come after it. -/
def Followed (needs : Exchange → Option Connection) (met : Connection → List Exchange → Prop) :
    List Exchange → Prop
  | [] => True
  | exchange :: later =>
    (∀ c, needs exchange = some c → met c later) ∧ Followed needs met later

section Followed

variable {needs : Exchange → Option Connection} {met : Connection → List Exchange → Prop}
  {es fs : List Exchange}

theorem Followed.append (hmet : ∀ c later more, met c later → met c (later ++ more))
    (hes : Followed needs met es) (hfs : Followed needs met fs) :
    Followed needs met (es ++ fs) := by
  induction es with
  | nil => exact hfs
  | cons e es ih =>
      refine ⟨?_, ih hes.2⟩
      intro c hc
      exact hmet c es fs (hes.1 c hc)

theorem followed_of_none (hes : ∀ e ∈ es, needs e = none) : Followed needs met es := by
  induction es with
  | nil => trivial
  | cons e es ih =>
      obtain ⟨he, hes⟩ := List.forall_mem_cons.mp hes
      refine ⟨?_, ih hes⟩
      intro c hc
      rw [he] at hc
      cases hc

theorem followed_flatten (hmet : ∀ c later more, met c later → met c (later ++ more))
    {visits : List (List Exchange)} (h : ∀ visit ∈ visits, Followed needs met visit) :
    Followed needs met visits.flatten := by
  induction visits with
  | nil => trivial
  | cons visit visits ih =>
      obtain ⟨hvisit, hvisits⟩ := List.forall_mem_cons.mp h
      exact hvisit.append hmet (ih hvisits)

theorem Followed.met_of_split {earlier later : List Exchange} {e : Exchange} {c : Connection}
    (h : Followed needs met (earlier ++ e :: later)) (he : needs e = some c) : met c later := by
  induction earlier with
  | nil => exact h.1 c he
  | cons _ earlier ih => exact ih h.2

end Followed

namespace Exchange

/-- The connection on which a transaction is begun, unless the session is told that the
server has refused to. -/
def begun? : Exchange → Option Connection
  | .sent _ .begin (.error _) true => none
  | .sent c .begin _ _ => some c
  | _ => none

/-- The connection that the pool has lent. -/
def lent? : Exchange → Option Connection
  | .asked (some (.ok c)) => some c
  | _ => none

/-- A statement on `c` that does not begin a transaction. -/
def StaysOn (c : Connection) : Exchange → Prop
  | .sent other statement _ _ => other = c ∧ statement ≠ .begin
  | _ => False

/-- The transaction on `c` is ended: by a `COMMIT` or a `ROLLBACK` that the server has
answered, or by discarding the connection, which rolls it back. -/
def EndsOn (c : Connection) : Exchange → Prop
  | .sent other .commit (.ok _) true => other = c
  | .sent other .rollback (.ok _) true => other = c
  | .discarded other => other = c
  | _ => False

end Exchange

/-- The transaction on `c` is ended in what comes later, and until then there are only
statements on `c`, none of which begins another one. -/
def EndedOn (c : Connection) (later : List Exchange) : Prop :=
  ∃ inside ending rest, later = inside ++ ending :: rest ∧ (∀ e ∈ inside, e.StaysOn c) ∧
    ending.EndsOn c

/-- The connection is given back. -/
def GivenBack (c : Connection) (later : List Exchange) : Prop :=
  .released c ∈ later ∨ .discarded c ∈ later

section Owed

variable {c : Connection} {es later : List Exchange}

theorem EndedOn.append (h : EndedOn c later) (more : List Exchange) :
    EndedOn c (later ++ more) := by
  obtain ⟨inside, ending, rest, rfl, hinside, hending⟩ := h
  exact ⟨inside, ending, rest ++ more, by simp, hinside, hending⟩

theorem GivenBack.append (h : GivenBack c later) (more : List Exchange) :
    GivenBack c (later ++ more) :=
  h.imp (List.mem_append_left more) (List.mem_append_left more)

theorem Exchange.Within.begun?_eq_none {e : Exchange} (h : e.Within c) : e.begun? = none := by
  cases e with
  | sent other st verdict heard =>
      cases st with
      | begin => cases h.2
      | setReadOnly | commit | rollback | native | select | insert | upsert | delete => rfl
  | asked | released | discarded => rfl

theorem Exchange.Within.staysOn {e : Exchange} (h : e.Within c) : e.StaysOn c := by
  cases e with
  | sent other st verdict heard =>
      refine ⟨h.1, ?_⟩
      rintro rfl
      cases h.2
  | asked | released | discarded => exact h

theorem Exchange.Within.lent?_eq_none {e : Exchange} (h : e.Within c) : e.lent? = none := by
  cases e with
  | sent => rfl
  | asked => cases h
  | released | discarded => rfl

theorem Session.EndsBy.none {st : Statement} {ended? : Option (Except DatabaseFailure Unit)}
    (h : Session.EndsBy c st es ended?) (hst : st = .commit ∨ st = .rollback) :
    ∀ e ∈ es, e.begun? = none ∧ e.lent? = none := by
  rcases hst with rfl | rfl <;> cases h <;> simp [Exchange.begun?, Exchange.lent?]

theorem Session.EndsBy.endedOn {st : Statement} {ended? : Option (Except DatabaseFailure Unit)}
    (h : Session.EndsBy c st es ended?) (hst : st = .commit ∨ st = .rollback)
    {inside : List Exchange} (hinside : ∀ e ∈ inside, e.StaysOn c) :
    EndedOn c (inside ++ es) := by
  have hstays : ∀ verdict heard, (Exchange.sent c st verdict heard).StaysOn c := by
    intro verdict heard
    refine ⟨rfl, ?_⟩
    rintro rfl
    rcases hst with hst | hst <;> cases hst
  cases h with
  | dropped verdict =>
      refine ⟨inside ++ [.sent c st verdict false], .discarded c, [], by simp, ?_, rfl⟩
      exact List.forall_mem_append.mpr ⟨hinside, by simpa using hstays verdict false⟩
  | refused failure =>
      refine ⟨inside ++ [.sent c st (.error failure) true], .discarded c, [], by simp, ?_, rfl⟩
      exact List.forall_mem_append.mpr ⟨hinside, by simpa using hstays _ true⟩
  | ended a =>
      refine ⟨inside, .sent c st (.ok a) true, [.released c], rfl, hinside, ?_⟩
      rcases hst with rfl | rfl <;> rfl

theorem Session.EndsBy.givenBack {st : Statement} {ended? : Option (Except DatabaseFailure Unit)}
    (h : Session.EndsBy c st es ended?) : GivenBack c es := by
  cases h <;> simp [GivenBack]

/-- A visit in which a transaction is begun, with its end. -/
theorem Running.owed {begun : List Exchange} (h : Running c begun)
    (hes : ∀ e ∈ es, e.begun? = none ∧ e.lent? = none)
    (hended : ∀ inside, (∀ e ∈ inside, Exchange.StaysOn c e) → EndedOn c (inside ++ es))
    (hback : GivenBack c es) :
    Followed Exchange.begun? EndedOn (begun ++ es) ∧
      Followed Exchange.lent? GivenBack (begun ++ es) := by
  obtain ⟨a, inside, rfl, hinside⟩ := h
  constructor
  · refine ⟨by simp [Exchange.begun?], ?_, followed_of_none ?_⟩
    · rintro _ ⟨⟩
      exact hended inside fun e he => (hinside e he).staysOn
    · intro e he
      rcases List.mem_append.mp he with he | he
      · exact (hinside e he).begun?_eq_none
      · exact (hes e he).1
  · refine ⟨?_, by simp [Exchange.lent?], followed_of_none ?_⟩
    · rintro _ ⟨⟩
      exact hback.imp (fun h => by simp [h]) (fun h => by simp [h])
    · intro e he
      rcases List.mem_append.mp he with he | he
      · exact (hinside e he).lent?_eq_none
      · exact (hes e he).2

/-- A visit leaves nothing owed: its transaction is ended, its connection given back. -/
theorem Visit.owed (h : Visit es) :
    Followed Exchange.begun? EndedOn es ∧ Followed Exchange.lent? GivenBack es := by
  cases h with
  | @unlent reply hunlent =>
      refine ⟨followed_of_none (by simp [Exchange.begun?]), ?_, trivial⟩
      intro c hc
      rcases reply with _ | failure | other
      · cases hc
      · cases hc
      · exact absurd rfl (hunlent other)
  | @plain c ran hran =>
      constructor
      · refine followed_of_none (List.forall_mem_cons.mpr ⟨rfl, ?_⟩)
        refine List.forall_mem_append.mpr ⟨?_, by simp [Exchange.begun?]⟩
        intro e he
        exact (hran e he).within.begun?_eq_none
      · refine ⟨?_, followed_of_none (List.forall_mem_append.mpr ⟨?_, by simp [Exchange.lent?]⟩)⟩
        · rintro _ ⟨⟩
          exact Or.inl (by simp)
        · intro e he
          exact (hran e he).within.lent?_eq_none
  | refused c failure =>
      refine ⟨followed_of_none (by simp [Exchange.begun?]), ?_⟩
      refine ⟨?_, followed_of_none (by simp [Exchange.lent?])⟩
      rintro _ ⟨⟩
      exact Or.inl (by simp)
  | dropped c verdict =>
      constructor
      · refine ⟨by simp [Exchange.begun?], ?_, followed_of_none (by simp [Exchange.begun?])⟩
        intro other hother
        have hc : other = c := by
          cases verdict <;> exact (Option.some.inj hother).symm
        subst hc
        exact ⟨[], .discarded other, [], rfl, by simp, rfl⟩
      · refine ⟨?_, followed_of_none (by simp [Exchange.lent?])⟩
        rintro _ ⟨⟩
        exact Or.inr (by simp)
  | discarded hrunning =>
      refine hrunning.owed (by simp [Exchange.begun?, Exchange.lent?]) ?_ (Or.inr (by simp))
      intro inside hinside
      exact ⟨inside, _, [], rfl, hinside, rfl⟩
  | ended hrunning hst hends =>
      exact hrunning.owed (hends.none hst) (fun inside hinside => hends.endedOn hst hinside)
        hends.givenBack

/-- What a session without a transaction owes: nothing. -/
theorem Accounted.owed {past : List Exchange} (h : Accounted none past) :
    Followed Exchange.begun? EndedOn past ∧ Followed Exchange.lent? GivenBack past := by
  obtain ⟨visits, _, rfl, hvisits, rfl⟩ := h
  rw [List.append_nil]
  exact ⟨followed_flatten (fun _ _ more h => h.append more) fun v hv => (hvisits v hv).owed.1,
    followed_flatten (fun _ _ more h => h.append more) fun v hv => (hvisits v hv).owed.2⟩

end Owed

end Demarcation.Postgres
