/-
Handles that a session stands behind.

A factory of sessions hands out handles, and a call on such a handle is a call of the
session behind it.  `Desk.Serves h` says so: a deed of a unit of work that calls `h` is a
turn of the session, the flag that `h` tells is the session's, and any other deed leaves
the session alone.  The calls on one handle come one after the other.

A unit of work lives from the start of a demarcator that obtains its handle
(`UnitOfWork`).  Whatever is done afterwards, the handle is not configured again.
-/
import Demarcation.Proofs.Window
import Demarcation.Proofs.Transactions

namespace Demarcation

open Postgres

variable {app : Jobs} {h : Handle}

/-! ## Deeds as turns -/

/-- The turn of the session behind `h` that the deed is. -/
def WorkDeed.turn? (h : Handle) : WorkDeed app → Option Turn
  | .heard (.configure g options) reply =>
    if g = h then some ⟨.configure options, some reply⟩ else none
  | .heard (.begin g) reply => if g = h then some ⟨.begin, some reply⟩ else none
  | .heard (.commit g) reply => if g = h then some ⟨.commit, some reply⟩ else none
  | .heard (.rollback g) reply => if g = h then some ⟨.rollback, some reply⟩ else none
  | .heard (.execute g operation) reply =>
    if g = h then some ⟨.execute operation, some reply⟩ else none
  | .lost (.configure g options) => if g = h then some ⟨.configure options, none⟩ else none
  | .lost (.begin g) => if g = h then some ⟨.begin, none⟩ else none
  | .lost (.commit g) => if g = h then some ⟨.commit, none⟩ else none
  | .lost (.rollback g) => if g = h then some ⟨.rollback, none⟩ else none
  | .lost (.execute g operation) => if g = h then some ⟨.execute operation, none⟩ else none
  | .did (.close g) _ => if g = h then some ⟨.close, some ()⟩ else none
  | _ => none

/-- What a deed does to the session behind `h`. -/
structure Postgres.Desk.Serves (h : Handle) (before : Desk) (deed : WorkDeed app)
    (after : Desk) : Prop where
  taken : ∀ turn, deed.turn? h = some turn → before.Takes turn after
  spared : deed.turn? h = none → after = before
  told : ∀ answer, deed = .did (.transactionActive h) answer → answer = before.session.active

section Serves

variable {d t : Desk} {deed : WorkDeed app} {ds : List (WorkDeed app)}

theorem Postgres.Desk.Serves.keeps {P : Desk → Prop}
    (hturn : ∀ turn, deed.turn? h = some turn → d.Takes turn t → P d → P t)
    (hserves : d.Serves h deed t) (hd : P d) : P t := by
  cases hcase : deed.turn? h with
  | none =>
      rw [hserves.spared hcase]
      exact hd
  | some turn => exact hturn turn hcase (hserves.taken turn hcase) hd

theorem Postgres.Desk.Serves.rests (hserves : d.Serves h deed t) (hd : d.session.Rests) :
    t.session.Rests :=
  hserves.keeps (P := fun u : Desk => u.session.Rests) (fun _ _ hturn hu => hturn.rests hu) hd

/-- What every turn of the session keeps holds after all deeds. -/
theorem Postgres.Desk.keeps_of_serves {P : Desk → Prop} (hserved : Follows (Desk.Serves h) ds d t)
    (hturn : ∀ deed ∈ ds, ∀ turn, deed.turn? h = some turn → ∀ u w, u.Takes turn w → P u → P w)
    (hd : P d) : P t := by
  refine hserved.keeps ?_ hd
  intro deed hmem u w hserves hu
  exact hserves.keeps (fun turn hsome htakes => hturn deed hmem turn hsome u w htakes) hu

/-- A deed that is no turn of the session leaves it alone. -/
theorem Postgres.Desk.serves_of_none (hnone : deed.turn? h = none)
    (htold : ∀ answer, deed ≠ .did (.transactionActive h) answer) : d.Serves h deed d where
  taken turn hturn := by rw [hnone] at hturn; cases hturn
  spared _ := rfl
  told answer hdeed := absurd hdeed (htold answer)

/-- A deed that is a turn of the session takes it. -/
theorem Postgres.Desk.serves_of_conducts {new : List Exchange} {next : Session} (turn : Turn)
    (hsome : deed.turn? h = some turn) (hfree : d.session.locked = false)
    (hconducts : turn.order.Conducts d.session new turn.reply next) :
    d.Serves h deed { session := next, past := d.past ++ new } where
  taken other hother := by
    rw [hsome] at hother
    cases hother
    exact (Desk.takes_iff hfree).mpr ⟨new, next, hconducts, rfl⟩
  spared hnone := by rw [hsome] at hnone; cases hnone
  told answer hdeed := by rw [hdeed] at hsome; cases hsome

/-- A handle tells the flag of its session. -/
theorem Postgres.Desk.serves_asked :
    d.Serves h (.did (.transactionActive h) d.session.active : WorkDeed app) d where
  taken _ hturn := nomatch hturn
  spared _ := rfl
  told answer hdeed := by
    cases hdeed
    rfl

end Serves

/-! ## Units of work -/

/-- The deed configures `h`. -/
def WorkDeed.Configures (h : Handle) : WorkDeed app → Prop
  | .heard (.configure g _) _ => g = h
  | .lost (.configure g _) => g = h
  | _ => False

/-- The life of a unit of work with the handle `h`: a demarcator obtains the handle and
opens the unit of work, and it may complete it, fail it and release it.  At any moment
others may do what they like, but that they do not configure the handle. -/
inductive UnitOfWork (h : Handle) (spec : WorkSpec) : List (WorkDeed app) → Prop where
  | opened {demarcator : Demarcator} {registry : Registry} {cx : ContextId}
      {ds : List (WorkDeed app)} {v : Option (Except Failure Demarcator)}
      (starts : demarcator.Starts registry cx (some spec) ds v) (obtained : h ∈ handed ds) :
      UnitOfWork h spec ds
  | completed {ds es : List (WorkDeed app)} (lives : UnitOfWork h spec ds)
      {demarcator : Demarcator} {cx : ContextId}
      {v : Option (Except Failure Unit × Demarcator)} (completes : demarcator.Completes cx es v) :
      UnitOfWork h spec (ds ++ es)
  | failed {ds es : List (WorkDeed app)} (lives : UnitOfWork h spec ds)
      {demarcator : Demarcator} {cx : ContextId} {v : Option Demarcator}
      (fails : demarcator.Fails cx es v) : UnitOfWork h spec (ds ++ es)
  | released {ds es : List (WorkDeed app)} (lives : UnitOfWork h spec ds)
      {demarcator : Demarcator} {cx : ContextId}
      (releases : (demarcator.releaseAbandoned cx).Traces es ()) : UnitOfWork h spec (ds ++ es)
  | used {ds : List (WorkDeed app)} (lives : UnitOfWork h spec ds) {deed : WorkDeed app}
      (unconfigured : ¬ deed.Configures h) : UnitOfWork h spec (ds ++ [deed])

section UnitOfWork

variable {spec : WorkSpec} {ds : List (WorkDeed app)}

theorem WindsUp.not_configures (hds : WindsUp ds) : ∀ deed ∈ ds, ¬ WorkDeed.Configures h deed := by
  intro deed hmem hconfigures
  have hwinds := hds deed hmem
  cases deed with
  | did => exact hconfigures
  | heard call | lost call =>
      cases call with
      | configure => exact hwinds
      | create | begin | commit | rollback | execute | job => exact hconfigures

/-- The handle is obtained, configured with these options, and not configured again. -/
def ConfiguredOnce (h : Handle) (options : SessionOptions) (ds : List (WorkDeed app)) : Prop :=
  ∃ factory first rest, ds = .heard (.create factory) (.ok h) :: first :: rest ∧
    ((∃ reply, first = .heard (.configure h options) reply) ∨
      first = .lost (.configure h options)) ∧
    ∀ deed ∈ rest, ¬ WorkDeed.Configures h deed

theorem ConfiguredOnce.append {options : SessionOptions} {es : List (WorkDeed app)}
    (hds : ConfiguredOnce h options ds) (hes : ∀ deed ∈ es, ¬ WorkDeed.Configures h deed) :
    ConfiguredOnce h options (ds ++ es) := by
  obtain ⟨factory, first, rest, rfl, hfirst, hrest⟩ := hds
  exact ⟨factory, first, rest ++ es, rfl, hfirst, List.forall_mem_append.mpr ⟨hrest, hes⟩⟩

theorem OpenUnit.Enters.configuredOnce {cx : ContextId} {v : Option (Except Failure Unit)}
    {factory : FactoryId} (henters : OpenUnit.Enters cx spec h ds v) :
    ConfiguredOnce h spec.sessionOptions (.heard (.create factory) (.ok h) :: ds) := by
  cases henters with
  | configureDropped => exact ⟨factory, _, _, rfl, Or.inr rfl, by simp⟩
  | configureFailed => exact ⟨factory, _, _, rfl, Or.inl ⟨_, rfl⟩, by simp⟩
  | bound | beginDropped | begun =>
      refine ⟨factory, _, _, rfl, Or.inl ⟨_, rfl⟩, ?_⟩
      simp [ContextId.bindDeeds, WorkDeed.Configures]

theorem Demarcator.Starts.configuredOnce {demarcator : Demarcator} {registry : Registry}
    {cx : ContextId} {v : Option (Except Failure Demarcator)}
    (hstarts : demarcator.Starts registry cx (some spec) ds v) (hobtained : h ∈ handed ds) :
    ConfiguredOnce h spec.sessionOptions ds := by
  have hsole : ∀ {factory : FactoryId} {g : Handle} {entered rest : List (WorkDeed app)}
      {r : Option (Except Failure Unit)}, OpenUnit.Enters cx spec g entered r →
      handed rest = [] → (∀ deed ∈ rest, ¬ WorkDeed.Configures h deed) →
      h ∈ handed (.heard (.create factory) (.ok g) :: (entered ++ rest)) →
      ConfiguredOnce h spec.sessionOptions
        (.heard (.create factory) (.ok g) :: (entered ++ rest)) := by
    intro factory g entered rest r henters hrest hunconfigured hmem
    have hhanded : handed (.heard (.create factory) (.ok g) :: (entered ++ rest)) = [g] := by
      show g :: handed (entered ++ rest) = [g]
      rw [handed_append, henters.handed, hrest]
      rfl
    rw [hhanded] at hmem
    obtain rfl := List.mem_singleton.mp hmem
    exact henters.configuredOnce.append hunconfigured
  cases hstarts with
  | unresolved | createDropped | createFailed => cases hobtained
  | @enterDropped _ factory _ g entered henters =>
      rw [← List.append_nil entered] at hobtained ⊢
      exact hsole henters rfl (by simp) hobtained
  | @refused _ factory _ _ _ _ henters removed =>
      refine hsole henters ?_ ?_ hobtained
      · exact handed_unbindDeeds
      · cases removed <;> simp [ContextId.unbindDeeds, WorkDeed.Configures]
  | opened _ henters => exact hsole henters rfl (by simp [WorkDeed.Configures]) hobtained

theorem UnitOfWork.configuredOnce (hlives : UnitOfWork h spec ds) :
    ConfiguredOnce h spec.sessionOptions ds := by
  induction hlives with
  | opened hstarts hobtained => exact hstarts.configuredOnce hobtained
  | completed _ hcompletes ih => exact ih.append hcompletes.windsUp.not_configures
  | failed _ hfails ih => exact ih.append hfails.windsUp.not_configures
  | released _ hreleases ih => exact ih.append (windsUp_of_action hreleases).not_configures
  | used _ hdeed ih => exact ih.append (by simpa using hdeed)

/-- A unit of work with the first handle. -/
def firstWork (spec : WorkSpec) : OpenUnit := ⟨spec, ⟨0, ⟨0⟩⟩, ⟨0⟩⟩

/-- Opening it with its transaction, on the default unit. -/
def entering (spec : WorkSpec) : List (WorkDeed noJobs) :=
  .heard (.create ⟨0⟩) (.ok ⟨0, ⟨0⟩⟩) ::
    (.heard (.configure ⟨0, ⟨0⟩⟩ spec.sessionOptions) (.ok ()) ::
      (ContextId.bindDeeds ⟨0⟩ ⟨0, ⟨0⟩⟩ none ++ [.heard (.begin ⟨0, ⟨0⟩⟩) (.ok ())]) ++
      [.did (.emit (.workStarted ⟨0⟩ spec.unit spec.transactional)) ()])

theorem starts_entering {demarcator : Demarcator} (hunit : spec.unit = defaultUnitName)
    (htransactional : spec.transactional = true) :
    demarcator.Starts (.lone ⟨0⟩) ⟨0⟩ (some spec) (entering spec)
      (some (.ok { demarcator with current := some (firstWork spec) })) :=
  .opened (by rw [hunit]; exact Registry.resolve_lone _) (.begun none htransactional (.ok ()))

/-- The session behind the handle, when this has been done. -/
def entered (spec : WorkSpec) (c : Connection) (new : List Exchange) : Desk where
  session := {
    factory := ⟨0⟩
    options := spec.sessionOptions
    transaction := some c
    active := true }
  past := new

theorem serves_entering {c : Connection} {new : List Exchange}
    (hopens : Session.Opens spec.readOnly new (some (.ok c))) :
    Follows (Desk.Serves ⟨0, ⟨0⟩⟩) (entering spec) (.new ⟨0⟩) (entered spec c new) := by
  refine ⟨_, Desk.serves_of_none rfl nofun, ?_⟩
  refine ⟨_, Desk.serves_of_conducts ⟨.configure spec.sessionOptions, some (.ok ())⟩ rfl rfl
    ⟨rfl, .configured rfl⟩, ?_⟩
  refine ⟨_, Desk.serves_of_none rfl nofun, _, Desk.serves_of_none rfl nofun, ?_⟩
  refine ⟨_, Desk.serves_of_conducts ⟨.begin, some (.ok ())⟩ rfl rfl (.begun rfl rfl hopens), ?_⟩
  exact ⟨_, Desk.serves_of_none rfl nofun, rfl⟩

end UnitOfWork

end Demarcation
