/-
The lifetime of the handles of a request.

A handle that a request obtains is closed when its start fails, when the request
finishes, or when the request is dropped; the last two close what is bound in
the context.  A handle is bound from its start on, until the request finishes or
another handle of the same factory is obtained.  So a handle is missed in two
ways: it was displaced before the request finished, or it was obtained after the
request had finished and nothing finished the request again.  There is no other
way.

The deliveries of a history are not interrupted here, and between them others
may do what they like, except that they spare the context of the request.
-/
import Mathlib.Logic.Relation
import Demarcation.Proofs.Deliveries

namespace Demarcation

variable {app : Jobs} {others : Workspace → Workspace → Prop} {cx : ContextId}
  {w w' : Workspace} {h : Handle}

/-! ## Emptying a context -/

section Empties

variable {found : Option (Table FactoryId Handle)}

theorem closings_closeDeeds (handles : List Handle) :
    closings h (ContextId.closeDeeds handles : List (WorkDeed app)) = handles.count h := by
  induction handles with
  | nil => rfl
  | cons x handles ih =>
      have hcons : closings h (ContextId.closeDeeds (x :: handles) : List (WorkDeed app)) =
          handles.count h + if decide (x = h) then 1 else 0 := by
        rw [← ih]
        exact closings_cons
      rw [hcons, List.count_cons]
      simp

theorem closings_emptyDeeds :
    closings h (cx.emptyDeeds found : List (WorkDeed app)) =
      ((found.map Table.values).getD []).count h := by
  cases found with
  | none => rfl
  | some table => exact closings_closeDeeds table.values

theorem leads_closeDeeds (handles : List Handle) :
    Workspace.Leads others (ContextId.closeDeeds handles : List (WorkDeed app)) w w' ↔ w' = w := by
  induction handles with
  | nil => exact Iff.rfl
  | cons x handles ih =>
      constructor
      · rintro ⟨_, rfl, hrest⟩
        exact ih.mp hrest
      · intro h
        exact ⟨w, rfl, ih.mpr h⟩

theorem leads_emptyDeeds :
    Workspace.Leads others (cx.emptyDeeds found : List (WorkDeed app)) w w' ↔
      found = (w.context cx).bindings ∧ w' = w.set cx .empty := by
  have hclose : ∀ u : Workspace, Workspace.Leads others
      (cx.closeFoundDeeds found : List (WorkDeed app)) u w' ↔ w' = u := by
    intro u
    cases found with
    | none => exact Iff.rfl
    | some table =>
        constructor
        · rintro ⟨_, rfl, hrest⟩
          exact (leads_closeDeeds table.values).mp hrest
        · intro h
          exact ⟨u, rfl, (leads_closeDeeds table.values).mpr h⟩
  simp only [ContextId.emptyDeeds, Workspace.Leads, follows_cons] at hclose ⊢
  simp only [hclose, Workspace.Step, Workspace.perform, Prod.mk.injEq]
  constructor
  · rintro ⟨_, ⟨rfl, rfl⟩, rfl⟩
    exact ⟨rfl, rfl⟩
  · rintro ⟨rfl, rfl⟩
    exact ⟨_, ⟨rfl, rfl⟩, rfl⟩

/-- Every handle that is bound is closed, and nothing stays bound. -/
structure Empties (cx : ContextId) (ds : List (WorkDeed app)) : Prop where
  handed : handed ds = []
  clears : ∀ {others : Workspace → Workspace → Prop} {w w' : Workspace},
    Workspace.Spares others cx → Workspace.Leads others ds w w' →
      w'.context cx = .empty ∧ ∀ h, closings h ds = (w.context cx).handles.count h

theorem Request.empties_of_traces {request next : Request} {ds : List (WorkDeed app)}
    (hfinishes : request.finish.Traces ds next) : Empties request.context ds := by
  obtain ⟨-, first, found, hneutral, rfl⟩ := finishes_of_traces hfinishes
  refine ⟨handed_of_action hfinishes, ?_⟩
  intro others w w' hspares hleads
  obtain ⟨u, hfirst, hempty⟩ := follows_append.mp hleads
  obtain ⟨rfl, rfl⟩ := leads_emptyDeeds.mp hempty
  refine ⟨Workspace.context_set_self u _ _, ?_⟩
  intro h
  rw [closings_append, hneutral.closings, closings_emptyDeeds, Nat.zero_add,
    hneutral.context hspares hfirst]
  rfl

end Empties

/-! ## One delivery -/

/-- What a delivery that is not dropped does to the handles and to the context.
The flags say whether the request had finished before and has finished after. -/
inductive Delivery.Effect (d : Delivery app) (cx : ContextId) : (before after : Bool) → Prop where
  | quiet {b : Bool} (event : d.event ≠ .finished) (quiet : Quiet cx d.deeds) : Effect d cx b b
  | opened {b : Bool} {g : Handle} (event : d.event ≠ .finished) (reply : d.reply = some (.ok ()))
      (opens : Opens cx d.deeds g) : Effect d cx b b
  | refused {b : Bool} {g : Handle} (event : d.event ≠ .finished)
      (reply : d.reply ≠ some (.ok ())) (refuses : Refuses cx d.deeds g) : Effect d cx b b
  | emptied {b : Bool} (event : d.event = .finished) (empties : Empties cx d.deeds) :
      Effect d cx b true

/-- The delivery obtains a handle of the factory of `h`. -/
def Delivery.Displaces (d : Delivery app) (h : Handle) : Prop :=
  ∃ g ∈ handed d.deeds, g.factory = h.factory

/-- The delivery neither finishes the request nor obtains another handle of the
factory of `h`. -/
def Delivery.Retains (d : Delivery app) (h : Handle) : Prop :=
  d.event ≠ .finished ∧ ¬ d.Displaces h

theorem Delivery.displaces_iff {d : Delivery app} {g : Handle} (hhanded : handed d.deeds = [g]) :
    d.Displaces h ↔ g.factory = h.factory := by
  rw [Displaces, hhanded]
  simp

namespace Request

variable {request next : Request} {d : Delivery app}

theorem Takes.effect (hdone : d.reply ≠ none) (hown : OwnFactory d.deeds)
    (hmode : request.demarcator.mode = .deferred) (htakes : request.Takes d next) :
    next.context = request.context ∧ next.demarcator.mode = .deferred ∧
      d.Effect request.context request.finished next.finished := by
  obtain ⟨event, registry, declarations, deeds, reply⟩ := d
  obtain ⟨v, hserves, hreply, rfl⟩ := htakes.serves
  obtain rfl : reply = v.map Prod.fst := hreply
  cases hserves with
  | startDropped => exact absurd rfl hdone
  | startFailed hstarts =>
      refine ⟨rfl, hmode, ?_⟩
      rcases hstarts.of_error hown with hquiet | ⟨_, g, -, -, hrefuses⟩
      · exact .quiet nofun hquiet
      · exact .refused nofun nofun hrefuses
  | started hstarts =>
      rcases hstarts.of_ok with ⟨-, rfl, rfl⟩ | ⟨_, work, -, -, rfl, -, hopens⟩
      · exact ⟨rfl, hmode, .quiet nofun neutral_nil.quiet⟩
      · exact ⟨rfl, hmode, .opened nofun rfl hopens⟩
  | responseDropped => exact absurd rfl hdone
  | responded hcompletes =>
      refine ⟨rfl, hcompletes.mode_eq.trans hmode, ?_⟩
      exact .quiet nofun (hcompletes.ends.neutral_of_deferred hmode).quiet
  | exceptionDropped => exact absurd rfl hdone
  | failed hfails =>
      refine ⟨rfl, hfails.mode_eq.trans hmode, ?_⟩
      exact .quiet nofun (hfails.ends.neutral_of_deferred hmode).quiet
  | finished hfinishes =>
      have hempties := empties_of_traces hfinishes
      obtain ⟨rfl, -⟩ := finishes_of_traces hfinishes
      exact ⟨rfl, hmode, .emptied rfl hempties⟩

end Request

namespace Delivery.Effect

variable {d : Delivery app} {before after : Bool}

theorem finished_iff (heffect : d.Effect cx before after) :
    after = true ↔ before = true ∨ d.event = .finished := by
  cases heffect with
  | quiet hevent => exact (or_iff_left hevent).symm
  | opened hevent => exact (or_iff_left hevent).symm
  | refused hevent => exact (or_iff_left hevent).symm
  | emptied hevent => exact iff_of_true rfl (Or.inr hevent)

theorem keyed (hspares : Workspace.Spares others cx) (hkeyed : (w.context cx).Keyed)
    (hleads : Workspace.Leads others d.deeds w w') (heffect : d.Effect cx before after) :
    (w'.context cx).Keyed := by
  cases heffect with
  | quiet _ hquiet =>
      rw [hquiet.context hspares hleads]
      exact hkeyed
  | opened _ _ hopens =>
      rw [hopens.context hspares hleads]
      exact hkeyed.bind _
  | refused _ _ hrefuses =>
      rw [hrefuses.context hspares hleads]
      exact hkeyed.unbind _
  | emptied _ hempties =>
      rw [(hempties.clears hspares hleads).1]
      exact Context.keyed_empty

/-- A handle that was obtained earlier is closed by finishing, if it is bound. -/
theorem closings_of_notMem (hspares : Workspace.Spares others cx)
    (hkeyed : (w.context cx).Keyed) (hleads : Workspace.Leads others d.deeds w w')
    (hfresh : h ∉ handed d.deeds) (heffect : d.Effect cx before after) :
    closings h d.deeds ≤ 1 ∧
      (closings h d.deeds = 1 ↔ d.event = .finished ∧ (w.context cx).Binds h) := by
  have hunclosed : d.event ≠ .finished → closings h d.deeds = 0 → closings h d.deeds ≤ 1 ∧
      (closings h d.deeds = 1 ↔ d.event = .finished ∧ (w.context cx).Binds h) := by
    intro hevent hzero
    rw [hzero]
    exact ⟨Nat.zero_le 1, iff_of_false nofun fun hand => hevent hand.1⟩
  cases heffect with
  | quiet hevent hquiet => exact hunclosed hevent (hquiet.closings h)
  | opened hevent _ hopens => exact hunclosed hevent (hopens.closings h)
  | refused hevent _ hrefuses =>
      refine hunclosed hevent ?_
      rw [hrefuses.closings, if_neg (ne_of_handed hrefuses.handed hfresh)]
  | emptied hevent hempties =>
      rw [(hempties.clears hspares hleads).2, and_iff_right hevent]
      exact hkeyed.count_handles

/-- It stays bound until the request finishes or a handle of its factory is
obtained. -/
theorem binds_of_notMem (hspares : Workspace.Spares others cx)
    (hleads : Workspace.Leads others d.deeds w w') (hfresh : h ∉ handed d.deeds)
    (heffect : d.Effect cx before after) :
    (w'.context cx).Binds h ↔ (w.context cx).Binds h ∧ d.Retains h := by
  rw [Delivery.Retains]
  cases heffect with
  | quiet hevent hquiet =>
      have hnone : ¬ d.Displaces h := by
        rintro ⟨g, hmem, -⟩
        rw [hquiet.handed] at hmem
        cases hmem
      rw [hquiet.context hspares hleads]
      exact (and_iff_left ⟨hevent, hnone⟩).symm
  | @opened g hevent _ hopens =>
      have hne : g ≠ h := ne_of_handed hopens.handed hfresh
      rw [hopens.context hspares hleads, Context.binds_bind, or_iff_right hne,
        Delivery.displaces_iff hopens.handed, and_iff_right hevent, and_comm]
  | refused hevent _ hrefuses =>
      rw [hrefuses.context hspares hleads, Context.binds_unbind,
        Delivery.displaces_iff hrefuses.handed, and_iff_right hevent, and_comm]
  | emptied hevent hempties =>
      rw [(hempties.clears hspares hleads).1]
      exact iff_of_false Context.not_binds_empty fun hand => hand.2.1 hevent

/-- A handle that is obtained is bound if the start succeeds, and closed if it
fails. -/
theorem of_mem (hspares : Workspace.Spares others cx)
    (hleads : Workspace.Leads others d.deeds w w') (hmem : h ∈ handed d.deeds)
    (heffect : d.Effect cx before after) :
    (d.reply = some (.ok ()) ∧ closings h d.deeds = 0 ∧ (w'.context cx).Binds h) ∨
      (d.reply ≠ some (.ok ()) ∧ closings h d.deeds = 1 ∧ ¬ (w'.context cx).Binds h) := by
  cases heffect with
  | quiet _ hquiet =>
      rw [hquiet.handed] at hmem
      cases hmem
  | opened _ hreply hopens =>
      rw [hopens.handed] at hmem
      obtain rfl := List.mem_singleton.mp hmem
      refine Or.inl ⟨hreply, hopens.closings h, ?_⟩
      rw [hopens.context hspares hleads, Context.binds_bind]
      exact Or.inl rfl
  | refused _ hreply hrefuses =>
      rw [hrefuses.handed] at hmem
      obtain rfl := List.mem_singleton.mp hmem
      refine Or.inr ⟨hreply, ?_, ?_⟩
      · rw [hrefuses.closings, if_pos rfl]
      · rw [hrefuses.context hspares hleads, Context.binds_unbind]
        intro hand
        exact hand.1 rfl
  | emptied _ hempties =>
      rw [hempties.handed] at hmem
      cases hmem

end Delivery.Effect

/-! ## Dropping a request -/

/-- What dropping a request does. -/
inductive Request.Drops (request : Request) : List (WorkDeed app) → Prop where
  | finished (finished : request.finished = true) : Drops request []
  | nothingBound (finished : request.finished = false) :
      Drops request [.did (.context (.isEmpty request.context)) true]
  | finishing (finished : request.finished = false) {ds : List (WorkDeed app)} {next : Request}
      (finishes : request.finish.Traces ds next) :
      Drops request (.did (.context (.isEmpty request.context)) false ::
        .did (.emit (.requestDropped request.context)) () :: ds)

theorem Request.drops_of_traces {request : Request} {ds : List (WorkDeed app)} {u : Unit}
    (h : request.drop.Traces ds u) : request.Drops ds := by
  cases hfinished : request.finished with
  | true =>
      simp only [drop, hfinished, Bool.not_true, Bool.false_eq_true, if_false] at h
      obtain ⟨rfl, -⟩ := Action.traces_done.mp h
      exact .finished hfinished
  | false =>
      simp only [drop, hfinished, Bool.not_false, if_true, ContextId.isEmpty, Action.perform_bind,
        Action.done_bind] at h
      obtain ⟨nothing, rest, rfl, hrest⟩ := Action.traces_perform.mp h
      cases nothing with
      | true =>
          obtain ⟨rfl, -⟩ := Action.traces_done.mp hrest
          exact .nothingBound hfinished
      | false =>
          simp only [Bool.not_false, if_true, Action.traces_bind, traces_emit] at hrest
          obtain ⟨_, _, _, rfl, rfl, _, finishing, _, rfl, hfinishes, hdone⟩ := hrest
          obtain ⟨rfl, -⟩ := Action.traces_done.mp hdone
          rw [List.append_nil]
          exact .finishing hfinished hfinishes

/-- A request that has finished is dropped without a trace; any other closes what
is bound. -/
theorem Request.Drops.effect {request : Request} {ds : List (WorkDeed app)}
    (hdrops : request.Drops ds) (hspares : Workspace.Spares others request.context)
    (hleads : Workspace.Leads others ds w w') :
    (request.finished = true ∧ w'.context request.context = w.context request.context ∧
        ∀ h, closings h ds = 0) ∨
      (request.finished = false ∧ w'.context request.context = .empty ∧
        ∀ h, closings h ds = (w.context request.context).handles.count h) := by
  cases hdrops with
  | finished hfinished =>
      rw [follows_nil.mp hleads]
      exact Or.inl ⟨hfinished, rfl, fun _ => rfl⟩
  | nothingBound hfinished =>
      obtain ⟨_, hasked, rfl⟩ := hleads
      obtain ⟨hempty, rfl⟩ := Prod.mk.inj hasked
      have hcontext : w.context request.context = .empty :=
        congrArg Context.mk (Option.isNone_iff_eq_none.mp hempty)
      rw [hcontext]
      exact Or.inr ⟨hfinished, rfl, fun _ => rfl⟩
  | finishing hfinished hfinishes =>
      obtain ⟨_, hasked, _, rfl, hrest⟩ := hleads
      obtain ⟨-, rfl⟩ := Prod.mk.inj hasked
      exact Or.inr ⟨hfinished, (empties_of_traces hfinishes).clears hspares hrest⟩

/-! ## Histories -/

theorem Workspace.Spares.eq_of_meanwhile (hspares : Workspace.Spares others cx)
    (hmeanwhile : Relation.ReflTransGen others w w') : w'.context cx = w.context cx := by
  induction hmeanwhile with
  | refl => rfl
  | tail _ hstep ih => rw [hspares _ _ hstep, ih]

/-- Everything that was done in a history. -/
def allDeeds (deliveries : List (Delivery app)) : List (WorkDeed app) :=
  deliveries.flatMap Delivery.deeds

theorem allDeeds_cons (d : Delivery app) (deliveries : List (Delivery app)) :
    allDeeds (d :: deliveries) = d.deeds ++ allDeeds deliveries := rfl

theorem allDeeds_append (first rest : List (Delivery app)) :
    allDeeds (first ++ rest) = allDeeds first ++ allDeeds rest :=
  List.flatMap_append

/-- The next delivery to a request in a workspace.  Others act before it, and
while it waits. -/
def Request.Proceeds (others : Workspace → Workspace → Prop) (before : Request × Workspace)
    (d : Delivery app) (after : Request × Workspace) : Prop :=
  ∃ w, Relation.ReflTransGen others before.2 w ∧ before.1.Takes d after.1 ∧
    Workspace.Leads others d.deeds w after.2

/-- The delivery was not dropped, and its handles report their own factory. -/
structure Delivery.Regular (d : Delivery app) : Prop where
  done : d.reply ≠ none
  own : OwnFactory d.deeds

/-- The handle is closed by finishing the request before another handle of its
factory is obtained. -/
def ReleasedBy (h : Handle) : List (Delivery app) → Prop
  | [] => False
  | d :: rest => d.event = .finished ∨ (¬ d.Displaces h ∧ ReleasedBy h rest)

/-- The request works in the context `cx`, where handles are bound under their own
factories, and leaves their release to its end. -/
structure Request.Uses (cx : ContextId) (state : Request × Workspace) : Prop where
  context : state.1.context = cx
  mode : state.1.demarcator.mode = .deferred
  keyed : (state.2.context cx).Keyed

/-- A request whose first event is still to come. -/
theorem Request.Uses.of_empty (hempty : w.context cx = .empty) :
    Request.Uses cx ({ context := cx }, w) := by
  refine ⟨rfl, rfl, ?_⟩
  show (w.context cx).Keyed
  rw [hempty]
  exact Context.keyed_empty

section History

variable {d : Delivery app} {deliveries : List (Delivery app)} {s t : Request × Workspace}

theorem Request.Proceeds.effect (hspares : Workspace.Spares others cx) (hregular : d.Regular)
    (huses : Request.Uses cx s) (hproceeds : Request.Proceeds others s d t) :
    d.Effect cx s.1.finished t.1.finished ∧ Request.Uses cx t ∧
      ∃ w, w.context cx = s.2.context cx ∧ Workspace.Leads others d.deeds w t.2 := by
  obtain ⟨w, hmeanwhile, htakes, hleads⟩ := hproceeds
  have hcontext : w.context cx = s.2.context cx := hspares.eq_of_meanwhile hmeanwhile
  obtain ⟨hsame, hmode, heffect⟩ := htakes.effect hregular.done hregular.own huses.mode
  rw [huses.context] at hsame heffect
  have hkeyed : (w.context cx).Keyed := by
    rw [hcontext]
    exact huses.keyed
  exact ⟨heffect, ⟨hsame, hmode, heffect.keyed hspares hkeyed hleads⟩, w, hcontext, hleads⟩

/-- What the next delivery does to a handle that it does not obtain. -/
theorem Request.Proceeds.of_notMem (hspares : Workspace.Spares others cx) (hregular : d.Regular)
    (huses : Request.Uses cx s) (hfresh : h ∉ handed d.deeds)
    (hproceeds : Request.Proceeds others s d t) :
    closings h d.deeds ≤ 1 ∧
      (closings h d.deeds = 1 ↔ d.event = .finished ∧ (s.2.context cx).Binds h) ∧
      ((t.2.context cx).Binds h ↔ (s.2.context cx).Binds h ∧ d.Retains h) := by
  obtain ⟨heffect, -, w, hcontext, hleads⟩ := hproceeds.effect hspares hregular huses
  have hkeyed : (w.context cx).Keyed := by
    rw [hcontext]
    exact huses.keyed
  rw [← hcontext]
  obtain ⟨hle, hone⟩ := heffect.closings_of_notMem hspares hkeyed hleads hfresh
  exact ⟨hle, hone, heffect.binds_of_notMem hspares hleads hfresh⟩

/-- What it does to a handle that it obtains. -/
theorem Request.Proceeds.of_mem (hspares : Workspace.Spares others cx) (hregular : d.Regular)
    (huses : Request.Uses cx s) (hmem : h ∈ handed d.deeds)
    (hproceeds : Request.Proceeds others s d t) :
    (d.reply = some (.ok ()) ∧ closings h d.deeds = 0 ∧ (t.2.context cx).Binds h) ∨
      (d.reply ≠ some (.ok ()) ∧ closings h d.deeds = 1 ∧ ¬ (t.2.context cx).Binds h) := by
  obtain ⟨heffect, -, w, -, hleads⟩ := hproceeds.effect hspares hregular huses
  exact heffect.of_mem hspares hleads hmem

theorem Request.Proceeds.uses (hspares : Workspace.Spares others cx) (hregular : d.Regular)
    (huses : Request.Uses cx s) (hproceeds : Request.Proceeds others s d t) :
    Request.Uses cx t :=
  (hproceeds.effect hspares hregular huses).2.1

theorem uses_of_history (hspares : Workspace.Spares others cx)
    (hregular : ∀ d ∈ deliveries, d.Regular) (huses : Request.Uses cx s)
    (hhistory : Follows (Request.Proceeds others) deliveries s t) : Request.Uses cx t := by
  refine hhistory.keeps ?_ huses
  intro d hd u v hproceeds hu
  exact hproceeds.uses hspares (hregular d hd) hu

theorem finished_of_history (hspares : Workspace.Spares others cx)
    (hregular : ∀ d ∈ deliveries, d.Regular) (huses : Request.Uses cx s)
    (hhistory : Follows (Request.Proceeds others) deliveries s t) :
    t.1.finished = true ↔ s.1.finished = true ∨ ∃ d ∈ deliveries, d.event = .finished := by
  induction deliveries generalizing s with
  | nil =>
      rw [follows_nil.mp hhistory]
      exact (or_iff_left fun hex => nomatch hex.choose_spec.1).symm
  | cons d deliveries ih =>
      obtain ⟨hd, hrest⟩ := List.forall_mem_cons.mp hregular
      obtain ⟨between, hproceeds, hlater⟩ := hhistory
      obtain ⟨heffect, hbetween, -⟩ := hproceeds.effect hspares hd huses
      rw [ih hrest hbetween hlater, heffect.finished_iff, List.exists_mem_cons_iff, or_assoc]

/-- A handle that is not bound, and that the history does not obtain, is never
closed and never bound. -/
theorem not_binds_of_history (hspares : Workspace.Spares others cx)
    (hregular : ∀ d ∈ deliveries, d.Regular) (huses : Request.Uses cx s)
    (hfresh : h ∉ handed (allDeeds deliveries))
    (hhistory : Follows (Request.Proceeds others) deliveries s t)
    (hunbound : ¬ (s.2.context cx).Binds h) :
    closings h (allDeeds deliveries) = 0 ∧ ¬ (t.2.context cx).Binds h := by
  induction deliveries generalizing s with
  | nil =>
      rw [follows_nil.mp hhistory]
      exact ⟨rfl, hunbound⟩
  | cons d deliveries ih =>
      obtain ⟨hd, hrest⟩ := List.forall_mem_cons.mp hregular
      obtain ⟨between, hproceeds, hlater⟩ := hhistory
      have hbetween : Request.Uses cx between := hproceeds.uses hspares hd huses
      rw [allDeeds_cons, handed_append, List.mem_append, not_or] at hfresh
      obtain ⟨hle, hone, hbinds⟩ := hproceeds.of_notMem hspares hd huses hfresh.1
      have hzero : closings h d.deeds = 0 := by
        have hne : closings h d.deeds ≠ 1 := by
          intro heq
          exact hunbound (hone.mp heq).2
        omega
      have hstill : ¬ (between.2.context cx).Binds h := by
        intro hbound
        exact hunbound (hbinds.mp hbound).1
      obtain ⟨hclosings, hend⟩ := ih hrest hbetween hfresh.2 hlater hstill
      refine ⟨?_, hend⟩
      rw [allDeeds_cons, closings_append, hzero, hclosings]

/-- A handle that is bound is closed if the request finishes first, and stays
bound if neither that nor another handle of its factory comes. -/
theorem binds_of_history (hspares : Workspace.Spares others cx)
    (hregular : ∀ d ∈ deliveries, d.Regular) (huses : Request.Uses cx s)
    (hfresh : h ∉ handed (allDeeds deliveries))
    (hhistory : Follows (Request.Proceeds others) deliveries s t)
    (hbound : (s.2.context cx).Binds h) :
    closings h (allDeeds deliveries) ≤ 1 ∧
      (closings h (allDeeds deliveries) = 1 ↔ ReleasedBy h deliveries) ∧
      ((t.2.context cx).Binds h ↔ ∀ d ∈ deliveries, d.Retains h) := by
  induction deliveries generalizing s with
  | nil =>
      rw [follows_nil.mp hhistory]
      exact ⟨Nat.zero_le 1, iff_of_false nofun id, iff_of_true hbound nofun⟩
  | cons d deliveries ih =>
      obtain ⟨hd, hrest⟩ := List.forall_mem_cons.mp hregular
      obtain ⟨between, hproceeds, hlater⟩ := hhistory
      have hbetween : Request.Uses cx between := hproceeds.uses hspares hd huses
      rw [allDeeds_cons, handed_append, List.mem_append, not_or] at hfresh
      obtain ⟨hle, hone, hbinds⟩ := hproceeds.of_notMem hspares hd huses hfresh.1
      rw [and_iff_left hbound] at hone
      rw [and_iff_right hbound] at hbinds
      rw [allDeeds_cons, closings_append, List.forall_mem_cons, ReleasedBy]
      by_cases hretains : d.Retains h
      · -- nothing happens to the handle yet
        have hzero : closings h d.deeds = 0 := by
          have hne : closings h d.deeds ≠ 1 := by
            intro heq
            exact hretains.1 (hone.mp heq)
          omega
        rw [hzero, Nat.zero_add, or_iff_right hretains.1, and_iff_right hretains.2,
          and_iff_right hretains]
        exact ih hrest hbetween hfresh.2 hlater (hbinds.mpr hretains)
      · -- it is closed or displaced now, and nothing happens to it later
        have hgone : ¬ (between.2.context cx).Binds h := by
          intro hstill
          exact hretains (hbinds.mp hstill)
        obtain ⟨hzero, hend⟩ := not_binds_of_history hspares hrest hbetween hfresh.2 hlater hgone
        have hnow : d.event = .finished ↔
            d.event = .finished ∨ (¬ d.Displaces h ∧ ReleasedBy h deliveries) := by
          constructor
          · exact Or.inl
          · rintro (hfinished | ⟨hnot, -⟩)
            · exact hfinished
            · by_contra hevent
              exact hretains ⟨hevent, hnot⟩
        rw [hzero, Nat.add_zero, hone]
        exact ⟨hle, hnow, iff_of_false hend fun hall => hretains hall.1⟩

/-- A handle that is bound was bound before, or it was obtained by a start that
succeeded; nothing has removed it since. -/
theorem origin_of_binds (hspares : Workspace.Spares others cx)
    (hregular : ∀ d ∈ deliveries, d.Regular) (huses : Request.Uses cx s)
    (hhistory : Follows (Request.Proceeds others) deliveries s t)
    (hbound : (t.2.context cx).Binds h) :
    ((s.2.context cx).Binds h ∧ ∀ d ∈ deliveries, d.Retains h) ∨
      ∃ pre d post, deliveries = pre ++ d :: post ∧ h ∈ handed d.deeds ∧
        d.reply = some (.ok ()) ∧ ∀ y ∈ post, y.Retains h := by
  induction deliveries generalizing s with
  | nil =>
      rw [follows_nil.mp hhistory] at hbound
      exact Or.inl ⟨hbound, nofun⟩
  | cons d deliveries ih =>
      obtain ⟨hd, hrest⟩ := List.forall_mem_cons.mp hregular
      obtain ⟨between, hproceeds, hlater⟩ := hhistory
      have hbetween : Request.Uses cx between := hproceeds.uses hspares hd huses
      rcases ih hrest hbetween hlater with ⟨hkept, hretains⟩ | ⟨pre, x, post, rfl, hx⟩
      · by_cases hmem : h ∈ handed d.deeds
        · rcases hproceeds.of_mem hspares hd huses hmem with ⟨hreply, -⟩ | ⟨-, -, hunbound⟩
          · exact Or.inr ⟨[], d, deliveries, rfl, hmem, hreply, hretains⟩
          · exact absurd hkept hunbound
        · obtain ⟨-, -, hbinds⟩ := hproceeds.of_notMem hspares hd huses hmem
          obtain ⟨hearlier, hd⟩ := hbinds.mp hkept
          exact Or.inl ⟨hearlier, List.forall_mem_cons.mpr ⟨hd, hretains⟩⟩
      · exact Or.inr ⟨d :: pre, x, post, rfl, hx⟩

end History

/-! ## From the first delivery to the drop -/

/-- The life of a request: it starts in an empty context, takes deliveries that
are not dropped, and is dropped itself.  Its factories hand out every handle
once. -/
structure Request.Life (others : Workspace → Workspace → Prop) (cx : ContextId)
    (deliveries : List (Delivery app)) (last : List (WorkDeed app)) (before after : Workspace) :
    Prop where
  fresh : before.context cx = .empty
  regular : ∀ d ∈ deliveries, d.Regular
  once : (handed (allDeeds deliveries)).Nodup
  runs : ∃ (request : Request) (served leaving : Workspace),
    Follows (Request.Proceeds others) deliveries ({ context := cx }, before) (request, served) ∧
      Relation.ReflTransGen others served leaving ∧ request.drop.Traces last () ∧
      Workspace.Leads others last leaving after

section Life

variable {d : Delivery app} {deliveries pre post : List (Delivery app)}
  {last : List (WorkDeed app)} {before after : Workspace}

theorem ReleasedBy.not_retains (hreleased : ReleasedBy h deliveries) :
    ¬ ∀ y ∈ deliveries, y.Retains h := by
  induction deliveries with
  | nil => exact hreleased.elim
  | cons d deliveries ih =>
      intro hretains
      obtain ⟨hd, hrest⟩ := List.forall_mem_cons.mp hretains
      rcases hreleased with hfinished | ⟨-, hlater⟩
      · exact hd.1 hfinished
      · exact ih hlater hrest

/-- What the drop closes and leaves bound, by what was bound before it. -/
theorem Request.Uses.of_drop {request : Request} {served : Workspace}
    (huses : Request.Uses cx (request, served)) (hspares : Workspace.Spares others cx)
    (hmeanwhile : Relation.ReflTransGen others served w) (hdrop : request.drop.Traces last ())
    (hleads : Workspace.Leads others last w w') :
    (w'.context cx).Keyed ∧ ∀ h, closings h last ≤ 1 ∧
      (closings h last = 1 ↔ request.finished = false ∧ (served.context cx).Binds h) ∧
      ((w'.context cx).Binds h ↔ request.finished = true ∧ (served.context cx).Binds h) := by
  obtain ⟨hcontext, -, hkeyed⟩ := huses
  obtain rfl : request.context = cx := hcontext
  rw [← hspares.eq_of_meanwhile hmeanwhile] at hkeyed ⊢
  rcases (drops_of_traces hdrop).effect hspares hleads with
    ⟨hfinished, hcontext, hclosings⟩ | ⟨hfinished, hcontext, hclosings⟩
  · rw [hcontext]
    refine ⟨hkeyed, ?_⟩
    intro h
    rw [hclosings, hfinished]
    exact ⟨Nat.zero_le 1, iff_of_false nofun nofun, (and_iff_right rfl).symm⟩
  · rw [hcontext]
    refine ⟨Context.keyed_empty, ?_⟩
    intro h
    obtain ⟨hle, hone⟩ := hkeyed.count_handles (h := h)
    rw [hclosings, hfinished, and_iff_right rfl]
    exact ⟨hle, hone, iff_of_false Context.not_binds_empty nofun⟩

/-- At the end of a history that started in an empty context: whether a handle
that it obtained has been closed, and whether it is bound. -/
theorem of_mem_of_history {s t : Request × Workspace} (hspares : Workspace.Spares others cx)
    (hregular : ∀ y ∈ pre ++ d :: post, y.Regular)
    (honce : (handed (allDeeds (pre ++ d :: post))).Nodup) (huses : Request.Uses cx s)
    (hfresh : s.2.context cx = .empty)
    (hhistory : Follows (Request.Proceeds others) (pre ++ d :: post) s t)
    (hmem : h ∈ handed d.deeds) :
    closings h (allDeeds (pre ++ d :: post)) ≤ 1 ∧
      (closings h (allDeeds (pre ++ d :: post)) = 1 ↔
        d.reply ≠ some (.ok ()) ∨ ReleasedBy h post) ∧
      ((t.2.context cx).Binds h ↔ d.reply = some (.ok ()) ∧ ∀ y ∈ post, y.Retains h) := by
  -- the handle is obtained here and nowhere else
  have hdeeds : allDeeds (pre ++ d :: post) = allDeeds pre ++ (d.deeds ++ allDeeds post) :=
    allDeeds_append pre (d :: post)
  rw [hdeeds, handed_append, handed_append, List.nodup_append] at honce
  obtain ⟨-, hfrom, hpre⟩ := honce
  obtain ⟨-, -, hpost⟩ := List.nodup_append.mp hfrom
  have hfreshPre : h ∉ handed (allDeeds pre) := by
    intro hbefore
    exact hpre h hbefore h (List.mem_append_left _ hmem) rfl
  have hfreshPost : h ∉ handed (allDeeds post) := by
    intro hlater
    exact hpost h hmem h hlater rfl
  obtain ⟨hregularPre, hregularRest⟩ := List.forall_mem_append.mp hregular
  obtain ⟨hregularD, hregularPost⟩ := List.forall_mem_cons.mp hregularRest
  obtain ⟨u, hhistoryPre, v, hproceeds, hhistoryPost⟩ := follows_append.mp hhistory
  -- nothing happens to it before, and a start binds or closes it
  obtain ⟨hclosedPre, -⟩ := not_binds_of_history hspares hregularPre huses hfreshPre hhistoryPre
    (hfresh.symm ▸ Context.not_binds_empty)
  have husesU : Request.Uses cx u := uses_of_history hspares hregularPre huses hhistoryPre
  have husesV : Request.Uses cx v := hproceeds.uses hspares hregularD husesU
  rw [hdeeds, closings_append, closings_append, hclosedPre, Nat.zero_add]
  rcases hproceeds.of_mem hspares hregularD husesU hmem with
    ⟨hreply, hclosedD, hbound⟩ | ⟨hreply, hclosedD, hunbound⟩
  · rw [hclosedD, Nat.zero_add, or_iff_right (not_not_intro hreply), and_iff_right hreply]
    exact binds_of_history hspares hregularPost husesV hfreshPost hhistoryPost hbound
  · obtain ⟨hclosedPost, hend⟩ :=
      not_binds_of_history hspares hregularPost husesV hfreshPost hhistoryPost hunbound
    rw [hclosedD, hclosedPost]
    exact ⟨Nat.le_refl 1, iff_of_true rfl (Or.inl hreply),
      iff_of_false hend fun hand => hreply hand.1⟩

namespace Request.Life

/-- What a request has come to when it is dropped, and what the drop does then. -/
theorem at_drop (hspares : Workspace.Spares others cx)
    (hlife : Request.Life others cx deliveries last before after) :
    ∃ s : Request × Workspace,
      Follows (Request.Proceeds others) deliveries ({ context := cx }, before) s ∧
      (s.1.finished = true ↔ ∃ y ∈ deliveries, y.event = .finished) ∧
      (after.context cx).Keyed ∧ ∀ h, closings h last ≤ 1 ∧
        (closings h last = 1 ↔ s.1.finished = false ∧ (s.2.context cx).Binds h) ∧
        ((after.context cx).Binds h ↔ s.1.finished = true ∧ (s.2.context cx).Binds h) := by
  obtain ⟨hfresh, hregular, -, request, served, leaving, hhistory, hmeanwhile, hdrop, hleads⟩ :=
    hlife
  have huses : Request.Uses cx ({ context := cx }, before) := .of_empty hfresh
  have hended : Request.Uses cx (request, served) :=
    uses_of_history hspares hregular huses hhistory
  refine ⟨(request, served), hhistory, ?_, hended.of_drop hspares hmeanwhile hdrop hleads⟩
  rw [finished_of_history hspares hregular huses hhistory]
  exact or_iff_right nofun

/-- A handle that the request obtains is closed once or never.  It is closed if
and only if its start failed, or the request finished before another handle of
the same factory was obtained, or the request never finished and no other handle
of the same factory was obtained later. -/
theorem closings_iff (hspares : Workspace.Spares others cx)
    (hlife : Request.Life others cx (pre ++ d :: post) last before after)
    (hmem : h ∈ handed d.deeds) :
    closings h (allDeeds (pre ++ d :: post) ++ last) ≤ 1 ∧
      (closings h (allDeeds (pre ++ d :: post) ++ last) = 1 ↔
        d.reply ≠ some (.ok ()) ∨ ReleasedBy h post ∨
          ((∀ y ∈ pre ++ d :: post, y.event ≠ .finished) ∧ ∀ y ∈ post, ¬ y.Displaces h)) := by
  obtain ⟨s, hhistory, hfinished, -, hend⟩ := hlife.at_drop hspares
  obtain ⟨hle, hone, hbinds⟩ := of_mem_of_history hspares hlife.regular hlife.once
    (.of_empty hlife.fresh) hlife.fresh hhistory hmem
  obtain ⟨hlastLe, hlastOne, -⟩ := hend h
  have hnever : s.1.finished = false ↔ ∀ y ∈ pre ++ d :: post, y.event ≠ .finished := by
    rw [← Bool.not_eq_true, hfinished]
    push Not
    rfl
  rw [hbinds, hnever] at hlastOne
  rw [closings_append, ← or_assoc, ← hone]
  by_cases hclosed : closings h (allDeeds (pre ++ d :: post)) = 1
  · have hlast : closings h last ≠ 1 := by
      intro heq
      obtain ⟨-, hreply, hretains⟩ := hlastOne.mp heq
      rcases hone.mp hclosed with hfailed | hreleased
      · exact hfailed hreply
      · exact hreleased.not_retains hretains
    refine ⟨by omega, iff_of_true (by omega) (Or.inl hclosed)⟩
  · have hreply : d.reply = some (.ok ()) := by
      by_contra hfailed
      exact hclosed (hone.mpr (Or.inl hfailed))
    rw [and_iff_right hreply] at hlastOne
    have hkept : closings h last = 1 ↔
        (∀ y ∈ pre ++ d :: post, y.event ≠ .finished) ∧ ∀ y ∈ post, ¬ y.Displaces h := by
      rw [hlastOne]
      refine and_congr_right ?_
      intro hevents
      refine forall₂_congr ?_
      intro y hy
      refine and_iff_right ?_
      exact hevents y (List.mem_append_right pre (List.mem_cons_of_mem d hy))
    rw [or_iff_right hclosed, ← hkept]
    omega

/-- A handle stays bound for ever if and only if the request finished at some
time, and the handle was obtained after that and kept. -/
theorem binds_iff (hspares : Workspace.Spares others cx)
    (hlife : Request.Life others cx deliveries last before after) :
    (after.context cx).Binds h ↔ (∃ y ∈ deliveries, y.event = .finished) ∧
      ∃ pre d post, deliveries = pre ++ d :: post ∧ h ∈ handed d.deeds ∧
        d.reply = some (.ok ()) ∧ ∀ y ∈ post, y.Retains h := by
  obtain ⟨s, hhistory, hfinished, -, hend⟩ := hlife.at_drop hspares
  have huses : Request.Uses cx ({ context := cx }, before) := .of_empty hlife.fresh
  obtain ⟨-, -, hafter⟩ := hend h
  rw [hafter, hfinished]
  refine and_congr_right ?_
  intro _
  constructor
  · intro hbound
    rcases origin_of_binds hspares hlife.regular huses hhistory hbound with
      ⟨hearlier, -⟩ | horigin
    · exact absurd (hlife.fresh ▸ hearlier) Context.not_binds_empty
    · exact horigin
  · rintro ⟨pre, d, post, rfl, hmem, hreply, hretains⟩
    obtain ⟨-, -, hbinds⟩ :=
      of_mem_of_history hspares hlife.regular hlife.once huses hlife.fresh hhistory hmem
    exact hbinds.mpr ⟨hreply, hretains⟩

/-- Which handles of a request are closed, and when its context is left empty.  A
handle is missed if another handle of its factory displaces it before the request
finishes, or if it is obtained after the last time that the request finishes. -/
theorem released_iff (hspares : Workspace.Spares others cx)
    (hlife : Request.Life others cx deliveries last before after) :
    (∀ pre d post h, deliveries = pre ++ d :: post → h ∈ handed d.deeds →
        closings h (allDeeds deliveries ++ last) ≤ 1 ∧
          (closings h (allDeeds deliveries ++ last) = 1 ↔
            d.reply ≠ some (.ok ()) ∨ ReleasedBy h post ∨
              ((∀ y ∈ deliveries, y.event ≠ .finished) ∧ ∀ y ∈ post, ¬ y.Displaces h))) ∧
      ((∀ f, (after.context cx).find? f = none) ↔
        ((∃ y ∈ deliveries, y.event = .finished) →
          ∀ pre d post h, deliveries = pre ++ d :: post → h ∈ handed d.deeds →
            d.reply = some (.ok ()) → ∃ y ∈ post, ¬ y.Retains h)) := by
  constructor
  · rintro pre d post h rfl hmem
    exact hlife.closings_iff hspares hmem
  · obtain ⟨_, -, -, hkeyed, -⟩ := hlife.at_drop hspares
    rw [hkeyed.find?_eq_none_iff]
    constructor
    · intro hunbound hfinished pre d post h hsplit hmem hreply
      by_contra hretains
      have hall : ∀ y ∈ post, y.Retains h := by
        intro y hy
        by_contra hnot
        exact hretains ⟨y, hy, hnot⟩
      have hbound : (after.context cx).Binds h :=
        (hlife.binds_iff hspares).mpr ⟨hfinished, pre, d, post, hsplit, hmem, hreply, hall⟩
      exact hunbound h hbound
    · intro hremoved h hbinds
      obtain ⟨hfinished, pre, d, post, hsplit, hmem, hreply, hretains⟩ :=
        (hlife.binds_iff hspares).mp hbinds
      obtain ⟨y, hy, hnot⟩ := hremoved hfinished pre d post h hsplit hmem hreply
      exact hnot (hretains y hy)

/-- Dropping a request that works with the handle of this number. -/
def keepDropped (n : Nat) (found : Option (Table FactoryId Handle)) : List (WorkDeed noJobs) :=
  .did (.context (.isEmpty ⟨0⟩)) false :: .did (.emit (.requestDropped ⟨0⟩)) () ::
    ([.did (.transactionActive ⟨n, ⟨0⟩⟩) true, .did (.emit (.workAbandoned defaultUnitName)) ()] ++
      ContextId.emptyDeeds ⟨0⟩ found)

theorem traces_keepDropped (n : Nat) (found : Option (Table FactoryId Handle)) :
    (keepRequest n).drop.Traces (keepDropped n found) () := by
  have habandon : (keepRequest n).demarcator.abandon.Traces
      ([.did (.transactionActive ⟨n, ⟨0⟩⟩) true,
        .did (.emit (.workAbandoned defaultUnitName)) ()] : List (WorkDeed noJobs))
      { mode := .deferred } := .perform (.perform (.done _))
  have hempty : (ContextId.unbindAll ⟨0⟩ Handle.close).Traces
      (ContextId.emptyDeeds ⟨0⟩ found : List (WorkDeed noJobs)) () :=
    ContextId.traces_unbindAll.mpr ⟨found, rfl⟩
  have hfinish : (keepRequest n).finish.Traces _ ({ context := ⟨0⟩, finished := true } : Request) :=
    Action.traces_bind.mpr ⟨_, _, _, rfl, habandon, Action.traces_bind.mpr
      ⟨(), _, [], (List.append_nil _).symm, hempty, .done _⟩⟩
  refine .perform ?_
  show (emit (.requestDropped ⟨0⟩) >>= fun _ => (keepRequest n).finish >>= fun _ =>
    Action.done ()).Traces _ ()
  exact Action.traces_bind.mpr ⟨(), [_], _, rfl, traces_emit.mpr rfl,
    Action.traces_bind.mpr ⟨_, _, [], (List.append_nil _).symm, hfinish, .done ()⟩⟩

/-- The workspace after "keep" has been started with this handle. -/
def keepBound (n : Nat) (w : Workspace) : Workspace :=
  w.set ⟨0⟩ ((w.context ⟨0⟩).bind ⟨n, ⟨0⟩⟩).2

theorem proceeds_keepStart {n : Nat} {request : Request} (hcontext : request.context = ⟨0⟩)
    (w : Workspace) :
    Request.Proceeds Eq (request, w) (keepStart n ((w.context ⟨0⟩).find? ⟨0⟩))
      ({ request with demarcator := { request.demarcator with current := some (defaultWork n) } },
        keepBound n w) :=
  ⟨w, .refl, takes_keepStart hcontext, leads_defaultOpened.mpr ⟨rfl, rfl⟩⟩

theorem leads_keepDropped (n : Nat) (w : Workspace) :
    Workspace.Leads Eq (keepDropped n ((keepBound n w).context ⟨0⟩).bindings) (keepBound n w)
      ((keepBound n w).set ⟨0⟩ .empty) := by
  have hbound : ((keepBound n w).context ⟨0⟩).isEmpty = false := by
    rw [keepBound, Workspace.context_set_self]
    rfl
  exact ⟨_, Prod.ext hbound rfl, _, rfl,
    follows_append.mpr ⟨_, ⟨_, rfl, _, rfl, rfl⟩, leads_emptyDeeds.mpr ⟨rfl, rfl⟩⟩⟩

theorem regular_keepStart (n : Nat) (replaced : Option Handle) : (keepStart n replaced).Regular :=
  ⟨nofun, ownFactory_defaultOpened⟩

/-- The request that starts "keep" twice. -/
theorem life_of_two_starts :
    Request.Life Eq ⟨0⟩ [keepStart 0 none, keepStart 1 (some ⟨0, ⟨0⟩⟩)]
      (keepDropped 1 ((keepBound 1 (keepBound 0 {})).context ⟨0⟩).bindings) {}
      ((keepBound 1 (keepBound 0 {})).set ⟨0⟩ .empty) where
  fresh := rfl
  regular := List.forall_mem_cons.mpr ⟨regular_keepStart 0 none,
    List.forall_mem_singleton.mpr (regular_keepStart 1 _)⟩
  once := by decide
  runs := ⟨keepRequest 1, _, _, ⟨_, proceeds_keepStart rfl {}, _, proceeds_keepStart rfl _, rfl⟩,
    .refl, traces_keepDropped 1 _, leads_keepDropped 1 _⟩

/-- The second start displaces the handle of the first one, which is never
closed. -/
theorem displaced_handle_not_closed :
    ¬ ∀ (deliveries : List (Delivery noJobs)) (last : List (WorkDeed noJobs))
      (before after : Workspace),
      Request.Life Eq ⟨0⟩ deliveries last before after →
        (∀ h ∈ handed (allDeeds deliveries), 0 < closings h (allDeeds deliveries ++ last)) ∧
          ∀ f, (after.context ⟨0⟩).find? f = none := by
  intro hall
  obtain ⟨hclosed, -⟩ := hall _ _ _ _ life_of_two_starts
  have hpositive := hclosed ⟨0, ⟨0⟩⟩ (by decide)
  revert hpositive
  decide

/-- The request that starts "keep" once closes the handle when it is dropped. -/
theorem sole_handle_closed :
    closings ⟨0, ⟨0⟩⟩ (allDeeds [keepStart 0 none] ++
        keepDropped 0 ((keepBound 0 {}).context ⟨0⟩).bindings) = 1 ∧
      ∀ f, (((keepBound 0 {}).set ⟨0⟩ .empty).context ⟨0⟩).find? f = none := by
  have hlife : Request.Life Eq ⟨0⟩ [keepStart 0 none]
      (keepDropped 0 ((keepBound 0 {}).context ⟨0⟩).bindings) {}
      ((keepBound 0 {}).set ⟨0⟩ .empty) :=
    ⟨rfl, List.forall_mem_singleton.mpr (regular_keepStart 0 none), by decide, keepRequest 0, _, _,
      ⟨_, proceeds_keepStart rfl {}, rfl⟩, .refl, traces_keepDropped 0 _, leads_keepDropped 0 {}⟩
  have hstarts : ∀ y ∈ [keepStart 0 none], y.event ≠ .finished :=
    List.forall_mem_singleton.mpr nofun
  obtain ⟨hclosings, hempty⟩ := released_iff Workspace.spares_eq hlife
  constructor
  · exact (hclosings [] (keepStart 0 none) [] ⟨0, ⟨0⟩⟩ rfl (by decide)).2.mpr
      (Or.inr (Or.inr ⟨hstarts, nofun⟩))
  · refine hempty.mpr ?_
    rintro ⟨y, hy, hevent⟩
    exact absurd hevent (hstarts y hy)

end Request.Life

end Life

end Demarcation
