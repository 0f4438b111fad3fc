/-
What a request or a call keeps to.

A `Party` is one of the things that go on side by side: a request with all that
happens to it, or the call of a component's method.  It `Owns` bindings, namely
those that are its own to make: a request owns every binding of its context, and
a call owns the binding of the one factory that its method resolves to.

`WorkDeed.Confined` says that a deed keeps to what is owned: it commands contexts
about these bindings only, and it asks only handles that the party has gained,
from a factory or from these bindings.  `Party.conforms` says that a party whose
application code uses shared handles of its own unit only does no deed but such.

The contexts of requests and calls are given beforehand.  What a call does that makes
a context of its own is, after that, what the call does in this context
(`Component.traces_call`).
-/
import Demarcation.Proofs.Renaming
import Demarcation.Proofs.Routing

namespace Demarcation

variable {app : Jobs} {α : Type}

/-! ## Deeds that keep to what is owned -/

/-- The handle has been obtained from a factory, or found bound. -/
def Gained (earlier : List (WorkDeed app)) (h : Handle) : Prop :=
  h ∈ handed earlier ∨ (∃ cx f, .did (.context (.find cx f)) (some h) ∈ earlier) ∨
    ∃ cx table, .did (.context (.unbindAll cx)) (some table) ∈ earlier ∧ h ∈ table.values

/-- The command is about bindings that are owned.  What it binds comes from the factory
that the binding is for. -/
def ContextCommand.Within (owns : ContextId → FactoryId → Prop) (earlier : List (WorkDeed app)) :
    ContextCommand → Prop
  | .create => False
  | .bind cx h => ∃ f, owns cx f ∧ .heard (.create f) (.ok h) ∈ earlier
  | .unbind cx f => owns cx f
  | .unbindAll cx => ∀ f, owns cx f
  | .find cx f => owns cx f
  | .isEmpty cx => ∀ f, owns cx f

/-- The command to a context that is given. -/
@[simp] def WorkDeed.command? : WorkDeed app → Option ContextCommand
  | .did (.context c) _ => some c
  | _ => none

theorem WorkDeed.command?_rename {ρ : Handle → Handle} {d : WorkDeed app} :
    (d.rename ρ).command? = d.command?.map (ContextCommand.rename ρ) := by
  rcases d with ⟨_ | _ | _ | _ | _, _⟩ | ⟨_, _⟩ | _
  all_goals rfl

/-- The deed keeps to what is owned and to handles that have been gained. -/
structure WorkDeed.Confined (owns : ContextId → FactoryId → Prop) (earlier : List (WorkDeed app))
    (deed : WorkDeed app) : Prop where
  commands : ∀ c, deed.command? = some c → c.Within owns earlier
  handles : ∀ h, deed.asked? = some h → Gained earlier h

section Confined

variable {owns : ContextId → FactoryId → Prop} {earlier ds : List (WorkDeed app)} {h : Handle}
  {cx : ContextId}

theorem Gained.append (hgained : Gained earlier h) (later : List (WorkDeed app)) :
    Gained (earlier ++ later) h := by
  rcases hgained with hhanded | ⟨cx, f, hmem⟩ | ⟨cx, table, hmem, hvalue⟩
  · rw [Gained, handed_append]
    exact Or.inl (List.mem_append_left _ hhanded)
  · exact Or.inr (Or.inl ⟨cx, f, List.mem_append_left _ hmem⟩)
  · exact Or.inr (Or.inr ⟨cx, table, List.mem_append_left _ hmem, hvalue⟩)

/-- What has been gained at last. -/
theorem Gained.of_last {d : WorkDeed app} (hgained : Gained (earlier ++ [d]) h) :
    Gained earlier h ∨ h ∈ handed [d] ∨ (∃ cx f, d = .did (.context (.find cx f)) (some h)) ∨
      ∃ cx table, d = .did (.context (.unbindAll cx)) (some table) ∧ h ∈ table.values := by
  rcases hgained with hhanded | ⟨cx, f, hmem⟩ | ⟨cx, table, hmem, hvalue⟩
  · rw [handed_append] at hhanded
    rcases List.mem_append.mp hhanded with hearlier | hlast
    · exact Or.inl (Or.inl hearlier)
    · exact Or.inr (Or.inl hlast)
  · rcases List.mem_append.mp hmem with hearlier | hlast
    · exact Or.inl (Or.inr (Or.inl ⟨cx, f, hearlier⟩))
    · exact Or.inr (Or.inr (Or.inl ⟨cx, f, (List.mem_singleton.mp hlast).symm⟩))
  · rcases List.mem_append.mp hmem with hearlier | hlast
    · exact Or.inl (Or.inr (Or.inr ⟨cx, table, hearlier, hvalue⟩))
    · exact Or.inr (Or.inr (Or.inr ⟨cx, table, (List.mem_singleton.mp hlast).symm, hvalue⟩))

/-- A deed that neither commands a context nor asks a handle. -/
theorem WorkDeed.confined_of_none {d : WorkDeed app} (hcommand : d.command? = none)
    (hasked : d.asked? = none) : d.Confined owns earlier := by
  constructor
  · intro c hc
    rw [hcommand] at hc
    cases hc
  · intro g hg
    rw [hasked] at hg
    cases hg

/-- A question to a handle that has been gained. -/
theorem WorkDeed.confined_of_asked {d : WorkDeed app} (hcommand : d.command? = none)
    (hasked : d.asked? = some h) (hgained : Gained earlier h) : d.Confined owns earlier := by
  constructor
  · intro c hc
    rw [hcommand] at hc
    cases hc
  · intro g hg
    rw [hasked] at hg
    obtain rfl := Option.some.inj hg
    exact hgained

/-- A command about what is owned. -/
theorem WorkDeed.confined_of_within {c : ContextCommand} {answer : c.Answer}
    (hwithin : c.Within owns earlier) :
    WorkDeed.Confined owns earlier (.did (.context c) answer : WorkDeed app) := by
  constructor
  · rintro _ ⟨⟩
    exact hwithin
  · rintro g ⟨⟩

theorem gained_of_create {f : FactoryId} (hmem : .heard (.create f) (.ok h) ∈ earlier) :
    Gained earlier h := Or.inl (mem_handed hmem)

theorem ContextCommand.Within.append {c : ContextCommand} (hwithin : c.Within owns earlier)
    (later : List (WorkDeed app)) : c.Within owns (earlier ++ later) := by
  cases c with
  | bind =>
      obtain ⟨f, hf, hmem⟩ := hwithin
      exact ⟨f, hf, List.mem_append_left _ hmem⟩
  | create => exact hwithin
  | unbind => exact hwithin
  | unbindAll => exact hwithin
  | find => exact hwithin
  | isEmpty => exact hwithin

/-- Deeds that keep to what is owned and gained beforehand. -/
theorem each_confined {P : ContextCommand → Prop} {H : Handle → Prop}
    (hcommands : ∀ d ∈ ds, ∀ c, d.command? = some c → P c)
    (hcontacts : Contacts (fun _ => True) H ds)
    (hwithin : ∀ c, P c → c.Within owns earlier) (hgained : ∀ h, H h → Gained earlier h) :
    Each (WorkDeed.Confined owns) earlier ds := by
  refine each_of_splits ?_
  rintro pre d post rfl
  have hmem : d ∈ pre ++ d :: post := by simp
  constructor
  · intro c hc
    exact (hwithin c (hcommands d hmem c hc)).append pre
  · intro g hg
    exact (hgained g ((hcontacts d hmem).2 g hg)).append pre

theorem WorkDeed.Neutral.command? {d : WorkDeed app} (hd : WorkDeed.Neutral d) :
    d.command? = none := by
  rcases d with ⟨_ | _ | _ | _ | _, _⟩ | _ | _
  all_goals first | rfl | cases hd

theorem each_confined_of_neutral (hds : Neutral ds)
    (hcontacts : Contacts (fun _ => True) (· = h) ds) (hgained : Gained earlier h) :
    Each (WorkDeed.Confined owns) earlier ds := by
  refine each_confined (P := fun _ => False) ?_ hcontacts (fun _ hno => hno.elim) ?_
  · intro d hmem c hc
    rw [(hds d hmem).command?] at hc
    cases hc
  · rintro g rfl
    exact hgained

/-! ## Units of work -/

theorem OpenUnit.Enters.commands {spec : WorkSpec} {v : Option (Except Failure Unit)}
    (henters : Enters cx spec h ds v) :
    ∀ d ∈ ds, ∀ c, d.command? = some c → c = .bind cx h := by
  cases henters <;> simp [ContextId.bindDeeds]

theorem ContextId.commands_unbindDeeds {f : FactoryId} {removed : Option Handle} :
    ∀ d ∈ (cx.unbindDeeds f removed : List (WorkDeed app)), ∀ c, d.command? = some c →
      c = .unbind cx f := by
  cases removed <;> simp [ContextId.unbindDeeds]

/-- Removing a binding that is owned. -/
theorem ContextId.each_confined_unbindDeeds {f : FactoryId} {removed : Option Handle}
    (howns : owns cx f) :
    Each (WorkDeed.Confined owns) earlier (cx.unbindDeeds f removed : List (WorkDeed app)) := by
  refine each_confined commands_unbindDeeds (H := fun _ => False) contacts_unbindDeeds ?_
    fun _ hno => hno.elim
  rintro c rfl
  exact howns

theorem OpenUnit.each_confined_releaseDeeds {work : OpenUnit} {removed : Option Handle}
    (hgained : Gained earlier work.handle) (howns : owns cx work.factory) :
    Each (WorkDeed.Confined owns) earlier (work.releaseDeeds cx removed : List (WorkDeed app)) := by
  exact ⟨WorkDeed.confined_of_asked rfl rfl hgained, each_append.mpr
    ⟨ContextId.each_confined_unbindDeeds howns, WorkDeed.confined_of_none rfl rfl, trivial⟩⟩

namespace Demarcator

variable {demarcator next : Demarcator}

/-- The unit of work in progress, if any, has a handle that has been gained, and the
binding of its factory is owned. -/
def WorksWithin (owns : ContextId → FactoryId → Prop) (cx : ContextId)
    (earlier : List (WorkDeed app)) (demarcator : Demarcator) : Prop :=
  ∀ work, demarcator.current = some work → Gained earlier work.handle ∧ owns cx work.factory

theorem WorksWithin.append (hworks : demarcator.WorksWithin owns cx earlier)
    (later : List (WorkDeed app)) : demarcator.WorksWithin owns cx (earlier ++ later) := by
  intro work hcurrent
  obtain ⟨hgained, howns⟩ := hworks work hcurrent
  exact ⟨hgained.append later, howns⟩

theorem worksWithin_of_none (hcurrent : demarcator.current = none) :
    demarcator.WorksWithin owns cx earlier := by
  intro work hwork
  rw [hcurrent] at hwork
  cases hwork

theorem Starts.confined {registry : Registry} {spec? : Option WorkSpec}
    {v : Option (Except Failure Demarcator)}
    (howns : ∀ spec f, spec? = some spec → registry.resolve spec.unit = .ok f → owns cx f)
    (hstarts : demarcator.Starts registry cx spec? ds v) :
    Each (WorkDeed.Confined owns) earlier ds := by
  have hentered : ∀ {factory handle spec entered r}, owns cx factory →
      OpenUnit.Enters cx spec handle entered r → Each (WorkDeed.Confined owns)
        (earlier ++ [.heard (.create factory) (.ok handle)]) (entered : List (WorkDeed app)) := by
    intro factory handle spec entered r hfactory henters
    refine each_confined henters.commands henters.contacts ?_ ?_
    · rintro c rfl
      exact ⟨factory, hfactory, List.mem_append_right _ List.mem_cons_self⟩
    · rintro g rfl
      exact gained_of_create (List.mem_append_right _ List.mem_cons_self)
  cases hstarts with
  | undeclared => trivial
  | unresolved => trivial
  | createDropped => exact ⟨WorkDeed.confined_of_none rfl rfl, trivial⟩
  | createFailed => exact ⟨WorkDeed.confined_of_none rfl rfl, trivial⟩
  | enterDropped hresolved henters =>
      exact ⟨WorkDeed.confined_of_none rfl rfl, hentered (howns _ _ rfl hresolved) henters⟩
  | @refused _ factory hresolved handle _ _ henters =>
      have hfactory := howns _ _ rfl hresolved
      have hgained : Gained (earlier ++ [.heard (.create factory) (.ok handle)]) handle :=
        gained_of_create (List.mem_append_right _ List.mem_cons_self)
      exact ⟨WorkDeed.confined_of_none rfl rfl, each_append.mpr ⟨hentered hfactory henters,
        WorkDeed.confined_of_asked rfl rfl (hgained.append _),
        ContextId.each_confined_unbindDeeds hfactory⟩⟩
  | opened hresolved henters =>
      exact ⟨WorkDeed.confined_of_none rfl rfl, each_append.mpr
        ⟨hentered (howns _ _ rfl hresolved) henters, WorkDeed.confined_of_none rfl rfl, trivial⟩⟩

theorem Starts.worksWithin {registry : Registry} {spec? : Option WorkSpec}
    (howns : ∀ spec f, spec? = some spec → registry.resolve spec.unit = .ok f → owns cx f)
    (hworks : demarcator.WorksWithin owns cx earlier)
    (hstarts : demarcator.Starts registry cx spec? ds (some (.ok next))) :
    next.WorksWithin owns cx (earlier ++ ds) := by
  rcases hstarts.of_ok with ⟨-, rfl, rfl⟩ | ⟨spec, work, hspec, hresolved, rfl, hmem, -⟩
  · exact hworks.append []
  · rintro _ ⟨⟩
    exact ⟨gained_of_create (List.mem_append_right _ hmem), howns spec _ hspec hresolved⟩

theorem Finishes.confined {work : OpenUnit} (hgained : Gained earlier work.handle)
    (howns : owns cx work.factory) (hfinishes : demarcator.Finishes cx work ds) :
    Each (WorkDeed.Confined owns) earlier ds := by
  cases hfinishes with
  | immediate => exact OpenUnit.each_confined_releaseDeeds hgained howns
  | deferred => trivial

/-- Ending a unit of work is neutral, but for the release of its handle. -/
theorem Ends.confined {work : OpenUnit} {b : Bool} (hcurrent : demarcator.current = some work)
    (hworks : demarcator.WorksWithin owns cx earlier)
    (hcontacts : Contacts (fun _ => True) (· = work.handle) ds) (hends : demarcator.Ends cx ds b) :
    Each (WorkDeed.Confined owns) earlier ds := by
  obtain ⟨hgained, howns⟩ := hworks work hcurrent
  cases hends with
  | idle => trivial
  | dropped hneutral => exact each_confined_of_neutral hneutral hcontacts hgained
  | ended hcur hneutral hfinishes =>
      obtain rfl := Option.some.inj (hcurrent.symm.trans hcur)
      exact each_append.mpr
        ⟨each_confined_of_neutral hneutral (contacts_append.mp hcontacts).1 hgained,
          hfinishes.confined (hgained.append _) howns⟩

theorem conforms_complete (hworks : demarcator.WorksWithin owns cx earlier) :
    (demarcator.complete cx : Work app _).Conforms (WorkDeed.Confined owns) earlier := by
  cases hcurrent : demarcator.current with
  | none =>
      simp only [complete, hcurrent]
      exact Task.conforms_done _
  | some work =>
      intro ds v htraces
      have hcompletes := traces_complete.mp htraces
      exact hcompletes.ends.confined hcurrent hworks (hcompletes.contacts hcurrent)

theorem conforms_fail (hworks : demarcator.WorksWithin owns cx earlier) :
    (demarcator.fail cx : Work app _).Conforms (WorkDeed.Confined owns) earlier := by
  cases hcurrent : demarcator.current with
  | none =>
      simp only [fail, hcurrent]
      exact Task.conforms_done _
  | some work =>
      intro ds v htraces
      have hfails := traces_fail.mp htraces
      exact hfails.ends.confined hcurrent hworks (hfails.contacts hcurrent)

theorem confined_of_releaseAbandoned (hworks : demarcator.WorksWithin owns cx earlier) {u : Unit}
    (htraces : (demarcator.releaseAbandoned cx).Traces ds u) :
    Each (WorkDeed.Confined owns) earlier ds := by
  cases hcurrent : demarcator.current with
  | none =>
      simp only [releaseAbandoned, hcurrent] at htraces
      obtain ⟨rfl, -⟩ := Action.traces_done.mp htraces
      trivial
  | some work =>
      obtain ⟨hgained, howns⟩ := hworks work hcurrent
      obtain ⟨removed, rfl⟩ := (traces_releaseAbandoned hcurrent).mp htraces
      exact ⟨WorkDeed.confined_of_none rfl rfl,
        OpenUnit.each_confined_releaseDeeds (hgained.append _) howns⟩

theorem confined_of_abandon {after : Demarcator}
    (hgained : ∀ work, demarcator.current = some work → Gained earlier work.handle)
    (htraces : demarcator.abandon.Traces ds after) : Each (WorkDeed.Confined owns) earlier ds := by
  cases hcurrent : demarcator.current with
  | none =>
      simp only [abandon, hcurrent] at htraces
      obtain ⟨rfl, -⟩ := Action.traces_done.mp htraces
      trivial
  | some work =>
      have hasked : ∀ active, WorkDeed.Confined owns earlier
          (.did (.transactionActive work.handle) active : WorkDeed app) :=
        fun _ => WorkDeed.confined_of_asked rfl rfl (hgained work hcurrent)
      simp only [abandon, hcurrent] at htraces
      obtain ⟨active, rest, rfl, hrest⟩ := Action.traces_perform.mp htraces
      cases active with
      | false =>
          obtain ⟨rfl, -⟩ := Action.traces_done.mp hrest
          exact ⟨hasked _, trivial⟩
      | true =>
          obtain ⟨_, _, rfl, hdone⟩ := Action.traces_perform.mp hrest
          obtain ⟨rfl, -⟩ := Action.traces_done.mp hdone
          exact ⟨hasked _, WorkDeed.confined_of_none rfl rfl, trivial⟩

end Demarcator

/-! ## Application code -/

/-- Every lookup of the routine is for a factory that is allowed. -/
def Consults (allowed : FactoryId → Prop) (x : Work app α) : Prop :=
  ∀ ds v, x.Traces ds v → ∀ cx f found, .did (.context (.find cx f)) found ∈ ds → allowed f

theorem consults_done {allowed : FactoryId → Prop} (value : α) :
    Consults allowed (.done value : Work app α) := by
  intro ds v htraces cx f found hmem
  obtain ⟨rfl, -⟩ := Task.traces_done.mp htraces
  cases hmem

theorem Consults.bind {allowed : FactoryId → Prop} {β : Type} {x : Work app α}
    {next : α → Work app β} (hx : Consults allowed x) (hnext : ∀ a, Consults allowed (next a)) :
    Consults allowed (x >>= next) := by
  intro ds v htraces cx f found hmem
  rcases Task.traces_bind.mp htraces with ⟨a, first, rest, rfl, hfirst, hrest⟩ | ⟨hfirst, -⟩
  · rcases List.mem_append.mp hmem with hmem | hmem
    · exact hx first _ hfirst cx f found hmem
    · exact hnext a rest v hrest cx f found hmem
  · exact hx ds none hfirst cx f found hmem

/-- A shared handle looks up the handle of the factory that it is registered for. -/
theorem SharedHandle.consults_invokeFor {allowed : FactoryId → Prop} {shared : SharedHandle}
    {operation : Operation} {result : Outcome → Except Failure α}
    (hallowed : allowed shared.factory) :
    Consults allowed (shared.invokeFor cx operation result : Work app (Except Failure α)) := by
  have hinvoke : Consults allowed (shared.invoke cx operation : Work app _) := by
    intro ds v htraces other f found hmem
    cases traces_invoke.mp htraces with
    | unbound =>
        obtain ⟨⟩ := List.mem_singleton.mp hmem
        exact hallowed
    | bound hreceives =>
        rcases List.mem_cons.mp hmem with hlookup | hmem
        · cases hlookup
          exact hallowed
        · cases hreceives with
          | refused => simp at hmem
          | executed hadmitted => cases hadmitted <;> simp at hmem
          | dropped hadmitted => cases hadmitted <;> simp at hmem
  refine hinvoke.bind ?_
  rintro (failure | outcome)
  · exact consults_done _
  · exact consults_done _

theorem Found.gained (hfound : Found cx earlier h) : Gained earlier h := by
  obtain ⟨f, hmem⟩ := hfound
  exact Or.inr (Or.inl ⟨cx, f, hmem⟩)

theorem WorkDeed.Forwards.confined {d : WorkDeed app} (hforwards : d.Forwards cx earlier)
    (howns : ∀ other f found, d = .did (.context (.find other f)) found → owns cx f) :
    d.Confined owns earlier := by
  have hcommands : ∀ c, d.command? = some c → c.Within owns earlier := by
    intro c hc
    rcases d with ⟨c' | _ | _ | _ | _, answer⟩ | _ | _
    · obtain rfl : c' = c := Option.some.inj hc
      cases c' with
      | find other f =>
          obtain rfl : other = cx := hforwards
          exact howns other f answer rfl
      | _ => cases hforwards
    all_goals cases hc
  refine ⟨hcommands, ?_⟩
  intro g hg
  have hfound : Found cx earlier g := by
    rcases d with ⟨_ | _ | _ | _ | _, _⟩ | ⟨_ | _ | _ | _ | _ | _ | _, _⟩ |
      (_ | _ | _ | _ | _ | _ | _)
    all_goals first | (cases hg; done) | (cases hg; exact hforwards) | cases hforwards
  exact hfound.gained

/-- Code that uses shared handles only, of factories that are owned, keeps to them. -/
theorem SharedOnly.confined {x : Work app α} (hx : SharedOnly cx x)
    (hconsults : Consults (owns cx) x) :
    x.Conforms (WorkDeed.Confined owns) earlier := by
  intro ds v htraces
  have heach : Each (WorkDeed.Forwards cx) earlier ds := hx.conforms ds v htraces
  refine each_of_splits ?_
  rintro pre d post rfl
  obtain ⟨-, hd, -⟩ := each_append.mp heach
  refine hd.confined ?_
  rintro other f found rfl
  exact hconsults _ v htraces other f found (by simp)

/-! ## Calls -/

theorem Task.Conforms.guarded {allowed : List (WorkDeed app) → WorkDeed app → Prop}
    {x : Work app α} {cleanup : Step Unit} (hx : x.Conforms allowed earlier)
    (hcleanup : ∀ first last, x.Traces first none → cleanup.Traces last () →
      Each allowed (earlier ++ first) last) : (x.guarded cleanup).Conforms allowed earlier := by
  intro ds v htraces
  rcases Task.traces_guarded.mp htraces with ⟨-, h⟩ | ⟨-, first, last, rfl, hfirst, hlast⟩
  · exact hx ds v h
  · exact each_append.mpr ⟨hx first none hfirst, hcleanup first last hfirst hlast⟩

namespace Component

variable {τ ρ ε : Type} {component : Component τ} {registry : Registry} {ofFailure : Failure → ε}
  {method : String} {call : τ → ContextId → Work app (Except ε ρ)} {demarcator : Demarcator}

theorem conforms_conclude {outcome : Except ε ρ} (hworks : demarcator.WorksWithin owns cx earlier) :
    (conclude ofFailure demarcator cx outcome : Work app (Except ε ρ)).Conforms
      (WorkDeed.Confined owns) earlier := by
  cases outcome with
  | error e => exact (Demarcator.conforms_fail hworks).bind fun _ _ _ => Task.conforms_done _
  | ok value =>
      refine (Demarcator.conforms_complete hworks).bind ?_
      rintro ⟨failure | ⟨⟩, _⟩ _ _
      · exact Task.conforms_done _
      · exact Task.conforms_done _

/-- A call keeps to the binding of the factory that its method resolves to. -/
theorem conforms_callIn
    (howns : ∀ spec f, component.methods.find? method = some spec →
      registry.resolve spec.unit = .ok f → owns cx f)
    (hbody : SharedOnly cx (call component.target cx))
    (hconsults : Consults (owns cx) (call component.target cx)) :
    (component.callIn registry ofFailure cx method call).Conforms (WorkDeed.Confined owns)
      earlier := by
  have hstarts : ∀ {first v}, (component.opening registry cx method).Traces first v →
      Demarcator.Starts { mode := .immediate } registry cx (component.methods.find? method)
        (first : List (WorkDeed app)) v := fun h => Demarcator.traces_start.mp h
  have hopening : (component.opening registry cx method : Work app _).Conforms
      (WorkDeed.Confined owns) earlier := fun _ _ htraces => (hstarts htraces).confined howns
  refine hopening.bind ?_
  rintro (failure | demarcator) first hfirst
  · exact Task.conforms_done _
  · have hworks : demarcator.WorksWithin owns cx (earlier ++ first) :=
      (hstarts hfirst).worksWithin howns (Demarcator.worksWithin_of_none rfl)
    have hruns : (call component.target cx).Conforms (WorkDeed.Confined owns) (earlier ++ first) :=
      hbody.confined hconsults
    refine (hruns.bind fun _ during _ => conforms_conclude (hworks.append during)).guarded ?_
    intro during last _ hlast
    exact Demarcator.confined_of_releaseAbandoned (hworks.append during) hlast

end Component

/-! ## Requests -/

/-- What happens to a request: events are delivered and application code runs, which
each may depend on what has come before. -/
inductive Script (app : Jobs) (α : Type) : Type 1 where
  | done (value : α)
  | deliver (event : RequestEvent) (next : Except Failure Unit → Script app α)
  | run {β : Type} (code : Work app β) (next : β → Script app α)

namespace Request

/-- Follow a script to its end and let go of the request, also when this is dropped. -/
def follow (registry : Registry) (declarations : Declarations) :
    Script app α → Request → Work app α
  | .done value, request => do
    request.drop
    return value
  | .deliver event next, request => do
    let (reply, after) ← (request.deliver registry declarations event).guarded request.drop
    follow registry declarations (next reply) after
  | .run code next, request => do
    let value ← code.guarded request.drop
    follow registry declarations (next value) request

variable {request next : Request}

/-- All bindings of the context are owned, and the unit of work in progress has a handle
that has been gained. -/
structure WorksWithin (owns : ContextId → FactoryId → Prop) (earlier : List (WorkDeed app))
    (request : Request) : Prop where
  whole : ∀ f, owns request.context f
  gained : ∀ work, request.demarcator.current = some work → Gained earlier work.handle

theorem WorksWithin.demarcator (hworks : request.WorksWithin owns earlier) :
    request.demarcator.WorksWithin owns request.context earlier :=
  fun work hcurrent => ⟨hworks.gained work hcurrent, hworks.whole _⟩

theorem WorksWithin.append (hworks : request.WorksWithin owns earlier)
    (later : List (WorkDeed app)) : request.WorksWithin owns (earlier ++ later) :=
  ⟨hworks.whole, fun work hcurrent => (hworks.gained work hcurrent).append later⟩

/-- Emptying a context that is owned as a whole closes what has been found in it. -/
theorem confined_of_unbindAll {u : Unit} (howns : ∀ f, owns cx f)
    (htraces : (cx.unbindAll Handle.close).Traces ds u) :
    Each (WorkDeed.Confined owns) earlier ds := by
  obtain ⟨found, rfl⟩ := ContextId.traces_unbindAll.mp htraces
  refine ⟨WorkDeed.confined_of_within howns, ?_⟩
  cases found with
  | none => trivial
  | some table =>
      refine ⟨WorkDeed.confined_of_none rfl rfl,
        each_confined (P := fun _ => False) (H := (· ∈ table.values)) ?_ ?_
          (fun _ hno => hno.elim) ?_⟩
      · simp [ContextId.closeDeeds]
      · simp [Contacts, ContextId.closeDeeds]
      · intro g hvalue
        exact Or.inr (Or.inr ⟨cx, table, by simp, hvalue⟩)

theorem confined_of_finish (hworks : request.WorksWithin owns earlier)
    (htraces : request.finish.Traces ds next) : Each (WorkDeed.Confined owns) earlier ds := by
  simp only [finish, Action.traces_bind] at htraces
  obtain ⟨_, first, _, rfl, habandons, _, last, _, rfl, hempties, hdone⟩ := htraces
  obtain ⟨rfl, -⟩ := Action.traces_done.mp hdone
  rw [List.append_nil]
  exact each_append.mpr ⟨Demarcator.confined_of_abandon hworks.gained habandons,
    confined_of_unbindAll hworks.whole hempties⟩

theorem confined_of_drop {u : Unit} (hworks : request.WorksWithin owns earlier)
    (htraces : request.drop.Traces ds u) : Each (WorkDeed.Confined owns) earlier ds := by
  have hasked : ∀ nothing, WorkDeed.Confined owns earlier
      (.did (.context (.isEmpty request.context)) nothing : WorkDeed app) :=
    fun _ => WorkDeed.confined_of_within hworks.whole
  cases drops_of_traces htraces with
  | finished => trivial
  | nothingBound => exact ⟨hasked _, trivial⟩
  | finishing _ hfinishes =>
      exact ⟨hasked _, WorkDeed.confined_of_none rfl rfl,
        confined_of_finish ((hworks.append _).append _) hfinishes⟩

section Deliver

variable {registry : Registry} {declarations : Declarations} {event : RequestEvent}

theorem Serves.confined {v : Option (Except Failure Unit × Request)}
    (hworks : request.WorksWithin owns earlier)
    (hserves : request.Serves registry declarations event ds v) :
    Each (WorkDeed.Confined owns) earlier ds := by
  have howns : ∀ (spec : WorkSpec) f, registry.resolve spec.unit = .ok f → owns request.context f :=
    fun _ f _ => hworks.whole f
  cases hserves with
  | startDropped hstarts => exact hstarts.confined fun spec f _ => howns spec f
  | startFailed hstarts => exact hstarts.confined fun spec f _ => howns spec f
  | started hstarts => exact hstarts.confined fun spec f _ => howns spec f
  | responseDropped hcompletes =>
      exact Demarcator.conforms_complete hworks.demarcator _ _
        (Demarcator.traces_complete.mpr hcompletes)
  | responded hcompletes =>
      exact Demarcator.conforms_complete hworks.demarcator _ _
        (Demarcator.traces_complete.mpr hcompletes)
  | exceptionDropped hfails =>
      exact Demarcator.conforms_fail hworks.demarcator _ _ (Demarcator.traces_fail.mpr hfails)
  | failed hfails =>
      exact Demarcator.conforms_fail hworks.demarcator _ _ (Demarcator.traces_fail.mpr hfails)
  | finished hfinishes => exact confined_of_finish hworks hfinishes

theorem Serves.worksWithin {reply : Except Failure Unit} (hworks : request.WorksWithin owns earlier)
    (hserves : request.Serves registry declarations event ds (some (reply, next))) :
    next.context = request.context ∧ next.WorksWithin owns (earlier ++ ds) := by
  have hidle : ∀ demarcator : Demarcator, demarcator.current = none →
      ({ request with demarcator } : Request).WorksWithin owns (earlier ++ ds) := by
    intro demarcator hnone
    refine ⟨hworks.whole, ?_⟩
    intro work hcurrent
    rw [hnone] at hcurrent
    cases hcurrent
  cases hserves with
  | startFailed => exact ⟨rfl, hworks.append ds⟩
  | started hstarts =>
      refine ⟨rfl, hworks.whole, fun work hcurrent => ?_⟩
      exact (hstarts.worksWithin (fun _ f _ _ => hworks.whole f) hworks.demarcator work hcurrent).1
  | responded hcompletes => exact ⟨rfl, hidle _ hcompletes.current_eq_none⟩
  | failed hfails => exact ⟨rfl, hidle _ hfails.current_eq_none⟩
  | finished hfinishes =>
      obtain ⟨rfl, -⟩ := finishes_of_traces hfinishes
      refine ⟨rfl, hworks.whole, ?_⟩
      rintro work ⟨⟩

end Deliver

end Request

/-- All application code of the script uses shared handles only. -/
def Script.SharedOnly (cx : ContextId) : Script app α → Prop
  | .done _ => True
  | .deliver _ next => ∀ reply, (next reply).SharedOnly cx
  | .run code next => Demarcation.SharedOnly cx code ∧ ∀ value, (next value).SharedOnly cx

theorem Task.traces_guarded_some {x : Work app α} {cleanup : Step Unit} {value : α} :
    (x.guarded cleanup).Traces ds (some value) ↔ x.Traces ds (some value) := by
  rw [Task.traces_guarded]
  constructor
  · rintro (⟨-, htraces⟩ | ⟨hnone, -⟩)
    · exact htraces
    · cases hnone
  · exact fun htraces => Or.inl ⟨Option.some_ne_none value, htraces⟩

/-- A request keeps to its context. -/
theorem Request.conforms_follow {registry : Registry} {declarations : Declarations}
    {script : Script app α} {request : Request} (hscript : script.SharedOnly request.context)
    (hworks : request.WorksWithin owns earlier) :
    (request.follow registry declarations script).Conforms (WorkDeed.Confined owns) earlier := by
  induction script generalizing request earlier with
  | done value =>
      have hdrop : (Task.ofAction request.drop : Work app Unit).Conforms (WorkDeed.Confined owns)
          earlier := by
        intro ds v htraces
        obtain ⟨_, -, hdrops⟩ := Task.traces_ofAction.mp htraces
        exact confined_of_drop hworks hdrops
      exact hdrop.bind fun _ _ _ => Task.conforms_done value
  | deliver event next ih =>
      have hdeliver : (request.deliver registry declarations event : Work app _).Conforms
          (WorkDeed.Confined owns) earlier :=
        fun _ _ htraces => (traces_deliver.mp htraces).confined hworks
      refine (hdeliver.guarded fun first last _ hdrops =>
        confined_of_drop (hworks.append first) hdrops).bind ?_
      rintro ⟨reply, after⟩ first hfirst
      obtain ⟨hcontext, hafter⟩ :=
        (traces_deliver.mp (Task.traces_guarded_some.mp hfirst)).worksWithin hworks
      refine ih reply ?_ hafter
      rw [hcontext]
      exact hscript reply
  | run code next ih =>
      have hcode : code.Conforms (WorkDeed.Confined owns) earlier :=
        hscript.1.confined fun _ _ _ _ f _ _ => hworks.whole f
      refine (hcode.guarded fun first last _ hdrops =>
        confined_of_drop (hworks.append first) hdrops).bind ?_
      intro value first _
      exact ih value (hscript.2 value) (hworks.append first)

end Confined

/-! ## Parties -/

/-- One of many things that go on side by side, in a context that is given. -/
inductive Party (app : Jobs) : Type → Type 1 where
  /-- A request and what happens to it. -/
  | request {α : Type} (cx : ContextId) (script : Script app α) : Party app α
  /-- The call of a component's method. -/
  | call {τ ρ ε : Type} (component : Component τ) (ofFailure : Failure → ε) (cx : ContextId)
      (method : String) (body : τ → ContextId → Work app (Except ε ρ)) : Party app (Except ε ρ)

namespace Party

variable (registry : Registry) (declarations : Declarations)

/-- What the party does. -/
def program : Party app α → Work app α
  | .request cx script => Request.follow registry declarations script { context := cx }
  | .call component ofFailure cx method body => component.callIn registry ofFailure cx method body

/-- The bindings that are the party's own: those of its context for a request, and the one
of the factory that its method resolves to for a call. -/
def Owns : Party app α → ContextId → FactoryId → Prop
  | .request cx _, other, _ => other = cx
  | .call component _ cx method _, other, f => other = cx ∧
    ∃ spec, component.methods.find? method = some spec ∧ registry.resolve spec.unit = .ok f

/-- Its application code uses shared handles of its own unit only. -/
def Proper : Party app α → Prop
  | .request cx script => script.SharedOnly cx
  | .call component ofFailure cx method body => SharedOnly cx (body component.target cx) ∧
    Consults ((call component ofFailure cx method body).Owns registry cx) (body component.target cx)

variable {registry declarations}

/-- A party keeps to its own bindings, and to handles that it has gained. -/
theorem conforms {party : Party app α} (hproper : party.Proper registry) :
    (party.program registry declarations).Conforms
      (WorkDeed.Confined (party.Owns registry)) [] := by
  cases party with
  | request cx script =>
      refine Request.conforms_follow hproper ⟨fun _ => rfl, ?_⟩
      rintro work ⟨⟩
  | call component ofFailure cx method body =>
      exact Component.conforms_callIn (fun spec f hspec hresolved => ⟨rfl, spec, hspec, hresolved⟩)
        hproper.1 hproper.2

end Party

/-! ## Parties under other names -/

section Blind

variable {ρ : Handle → Handle}

/-- The names of handles mean nothing to the application code of the script. -/
def Script.BlindTo (ρ : Handle → Handle) : Script app α → Prop
  | .done _ => True
  | .deliver _ next => ∀ reply, (next reply).BlindTo ρ
  | .run code next => code.BlindTo ρ ∧ ∀ value, (next value).BlindTo ρ

theorem Request.renames_follow {registry : Registry} {declarations : Declarations}
    {script : Script app α} {request : Request} (hfactory : ∀ h, (ρ h).factory = h.factory)
    (hscript : script.BlindTo ρ) :
    Task.Renames ρ id (request.follow registry declarations script)
      ((request.rename ρ).follow registry declarations script) := by
  induction script generalizing request with
  | done value => exact renames_drop.bind fun _ => Task.renames_done rfl
  | deliver event next ih =>
      refine ((renames_deliver hfactory).guarded renames_drop).bind ?_
      rintro ⟨reply, after⟩
      exact ih reply (hscript reply)
  | run code next ih =>
      exact (hscript.1.guarded renames_drop).bind fun value => ih value (hscript.2 value)

/-- The names of handles mean nothing to the application code of the party. -/
def Party.BlindTo (ρ : Handle → Handle) : Party app α → Prop
  | .request _ script => script.BlindTo ρ
  | .call component _ cx _ body => (body component.target cx).BlindTo ρ

theorem Script.blindTo_id {script : Script app α} : script.BlindTo id := by
  induction script with
  | done => trivial
  | deliver _ _ ih => exact ih
  | run _ _ ih => exact ⟨Task.blindTo_id, ih⟩

/-- Every party may keep the names of its handles. -/
theorem Party.blindTo_id {party : Party app α} : party.BlindTo id := by
  cases party with
  | request => exact Script.blindTo_id
  | call => exact Task.blindTo_id

/-- Then they mean nothing to the party. -/
theorem Party.blindTo_program {registry : Registry} {declarations : Declarations}
    {party : Party app α} (hfactory : ∀ h, (ρ h).factory = h.factory) (hblind : party.BlindTo ρ) :
    (party.program registry declarations).BlindTo ρ := by
  cases party with
  | request cx script => exact Request.renames_follow hfactory hblind
  | call component ofFailure cx method body => exact Component.blindTo_callIn hfactory hblind

end Blind

end Demarcation
