/-
Requests whose deliveries are dropped.

Any delivery that waits may be dropped, and the request goes on with the next
one.  A pipeline starts one method for each request and finishes it last, or
drops it.  So a request obtains one handle at most, and `Standing` says what has
become of it: it is bound, or closed, or it has gone astray.

The last happens in one place.  A start that is dropped while it configures its
handle has not bound it yet, and finishing closes only what is bound.  Wherever
else deliveries are dropped, also while the transaction is begun, the handle is
found in the context and closed once.
-/
import Mathlib.Data.List.Induction
import Demarcation.Proofs.Lifetime

namespace Demarcation

variable {app : Jobs} {others : Workspace → Workspace → Prop} {cx : ContextId}
  {w w' : Workspace} {h : Handle} {ds es : List (WorkDeed app)}

/-! ## Starts that are dropped -/

/-- A handle was being configured when the routine was dropped. -/
def LostConfiguring (deeds : List (WorkDeed app)) : Prop :=
  ∃ handle options, .lost (.configure handle options) ∈ deeds

section LostConfiguring

theorem lostConfiguring_append :
    LostConfiguring (ds ++ es) ↔ LostConfiguring ds ∨ LostConfiguring es := by
  simp only [LostConfiguring, List.mem_append, exists_or]

theorem lostConfiguring_allDeeds {deliveries : List (Delivery app)} :
    LostConfiguring (allDeeds deliveries) ↔ ∃ d ∈ deliveries, LostConfiguring d.deeds := by
  constructor
  · rintro ⟨handle, options, hmem⟩
    obtain ⟨d, hd, hlost⟩ := List.mem_flatMap.mp hmem
    exact ⟨d, hd, handle, options, hlost⟩
  · rintro ⟨d, hd, handle, options, hlost⟩
    exact ⟨handle, options, List.mem_flatMap.mpr ⟨d, hd, hlost⟩⟩

theorem not_lostConfiguring_of_traces {α : Type} {routine : Work app α} {value : α}
    (h : routine.Traces ds (some value)) : ¬ LostConfiguring ds := by
  rintro ⟨handle, options, hmem⟩
  exact h.lost_notMem (Option.some_ne_none _) _ hmem

theorem not_lostConfiguring_of_action {α : Type} {x : Step α} {value : α}
    (hx : x.Traces ds value) : ¬ LostConfiguring ds := by
  have htraces : (Task.ofAction x : Work app α).Traces ds (some value) :=
    Task.traces_ofAction.mpr ⟨value, rfl, hx⟩
  exact not_lostConfiguring_of_traces htraces

namespace OpenUnit

variable {work : OpenUnit}

theorem OwesEnd.not_lostConfiguring {b : Bool} (howes : work.OwesEnd ds b) :
    ¬ LostConfiguring ds := by
  cases howes <;> simp [LostConfiguring]

theorem Commits.not_lostConfiguring {v : Option (Except Failure Unit)}
    (hcommits : work.Commits ds v) : ¬ LostConfiguring ds := by
  cases hcommits with
  | notOwed howes => exact howes.not_lostConfiguring
  | dropped howes => simpa [LostConfiguring] using howes.not_lostConfiguring
  | failed howes => simpa [LostConfiguring] using howes.not_lostConfiguring
  | committed howes => simpa [LostConfiguring] using howes.not_lostConfiguring

theorem RollsBack.not_lostConfiguring {v : Option Unit} (hrolls : work.RollsBack ds v) :
    ¬ LostConfiguring ds := by
  cases hrolls with
  | notOwed howes => exact howes.not_lostConfiguring
  | dropped howes => simpa [LostConfiguring] using howes.not_lostConfiguring
  | failed howes => simpa [LostConfiguring] using howes.not_lostConfiguring
  | rolledBack howes => simpa [LostConfiguring] using howes.not_lostConfiguring

end OpenUnit

end LostConfiguring

/-- `handle` is obtained, and neither bound nor closed. -/
structure Strays (cx : ContextId) (ds : List (WorkDeed app)) (handle : Handle) : Prop where
  handed : handed ds = [handle]
  closings : ∀ h, closings h ds = 0
  context : ∀ {others : Workspace → Workspace → Prop} {w w' : Workspace},
    Workspace.Spares others cx → Workspace.Leads others ds w w' →
      w'.context cx = w.context cx

namespace Demarcator

variable {demarcator : Demarcator} {registry : Registry} {spec? : Option WorkSpec}

/-- A start that is dropped has obtained no handle yet, or its handle is bound, or
the handle was being configured. -/
theorem Starts.of_dropped (hstarts : demarcator.Starts registry cx spec? ds none) :
    (Quiet cx ds ∧ ¬ LostConfiguring ds) ∨
      ∃ handle, (Opens cx ds handle ∧ ¬ LostConfiguring ds) ∨
        (Strays cx ds handle ∧ LostConfiguring ds) := by
  cases hstarts with
  | createDropped =>
      refine Or.inl ⟨⟨rfl, fun _ => rfl, ?_⟩, by simp [LostConfiguring]⟩
      intro others w w' hspares hleads
      obtain ⟨u, hother, rfl⟩ := hleads
      exact hspares _ _ hother
  | @enterDropped spec _ _ handle entered henters =>
      refine Or.inr ⟨handle, ?_⟩
      cases henters with
      | configureDropped =>
          refine Or.inr ⟨⟨rfl, fun _ => rfl, ?_⟩, handle, spec.sessionOptions, by simp⟩
          intro others w w' hspares hleads
          obtain ⟨u, hcreated, v, hlost, rfl⟩ := hleads
          rw [hspares _ _ hlost, hspares _ _ hcreated]
      | beginDropped replaced =>
          refine Or.inl ⟨⟨rfl, fun _ => rfl, ?_⟩, by simp [LostConfiguring, ContextId.bindDeeds]⟩
          intro others w w' hspares hleads
          have hconfigured : Neutral
              ([.heard (.configure handle spec.sessionOptions) (.ok ())] :
                List (WorkDeed app)) := by
            simp [WorkDeed.Neutral]
          have hbegin : Neutral ([.lost (.begin handle)] : List (WorkDeed app)) := by
            simp [WorkDeed.Neutral]
          obtain ⟨u, hcreated, hentered⟩ := hleads
          rw [context_of_bindDeeds hconfigured hbegin hspares hentered, hspares _ _ hcreated]

theorem Completes.not_lostConfiguring {v : Option (Except Failure Unit × Demarcator)}
    (hcompletes : demarcator.Completes cx ds v) : ¬ LostConfiguring ds := by
  cases v with
  | some value => exact not_lostConfiguring_of_traces (traces_complete.mpr hcompletes)
  | none =>
      cases hcompletes with
      | commitDropped _ hcommits => exact hcommits.not_lostConfiguring
      | rollbackDropped _ hcommits hrolls =>
          rw [lostConfiguring_append]
          rintro (hlost | hlost)
          · exact hcommits.not_lostConfiguring hlost
          · exact hrolls.not_lostConfiguring (by simpa [LostConfiguring] using hlost)

theorem Fails.not_lostConfiguring {v : Option Demarcator} (hfails : demarcator.Fails cx ds v) :
    ¬ LostConfiguring ds := by
  cases v with
  | some value => exact not_lostConfiguring_of_traces (traces_fail.mpr hfails)
  | none =>
      cases hfails with
      | dropped _ hrolls => exact hrolls.not_lostConfiguring

end Demarcator

/-! ## One delivery -/

/-- What a delivery does, dropped or not.  The flags say whether the request had
finished before and has finished after. -/
inductive Delivery.Turnout (d : Delivery app) (cx : ContextId) : (before after : Bool) → Prop where
  | settled {before after : Bool} (effect : d.Effect cx before after)
      (kept : ¬ LostConfiguring d.deeds) : Turnout d cx before after
  | leftBound {b : Bool} {g : Handle} (event : d.event ≠ .finished) (opens : Opens cx d.deeds g)
      (kept : ¬ LostConfiguring d.deeds) : Turnout d cx b b
  | strayed {b : Bool} {g : Handle} (event : d.event ≠ .finished) (strays : Strays cx d.deeds g)
      (lost : LostConfiguring d.deeds) : Turnout d cx b b

theorem Request.Takes.turnout {request next : Request} {d : Delivery app}
    (hown : OwnFactory d.deeds) (hmode : request.demarcator.mode = .deferred)
    (htakes : request.Takes d next) :
    next.context = request.context ∧ next.demarcator.mode = .deferred ∧
      d.Turnout request.context request.finished next.finished := by
  cases htakes with
  | served hreply htraces =>
      have hdone : d.reply ≠ none := by
        rw [hreply]
        exact Option.some_ne_none _
      obtain ⟨hcontext, hnext, heffect⟩ :=
        Takes.effect hdone hown hmode (.served hreply htraces)
      exact ⟨hcontext, hnext, .settled heffect (not_lostConfiguring_of_traces htraces)⟩
  | dropped _ htraces =>
      refine ⟨rfl, hmode, ?_⟩
      obtain ⟨event, registry, declarations, deeds, reply⟩ := d
      have hserves := traces_deliver.mp htraces
      cases hserves with
      | startDropped hstarts =>
          rcases hstarts.of_dropped with ⟨hquiet, hkept⟩ | ⟨g, ⟨hopens, hkept⟩ | ⟨hstrays, hlost⟩⟩
          · exact .settled (.quiet nofun hquiet) hkept
          · exact .leftBound nofun hopens hkept
          · exact .strayed nofun hstrays hlost
      | responseDropped hcompletes =>
          have hneutral : Neutral deeds := hcompletes.ends.neutral_of_deferred hmode
          exact .settled (.quiet nofun hneutral.quiet) hcompletes.not_lostConfiguring
      | exceptionDropped hfails =>
          have hneutral : Neutral deeds := hfails.ends.neutral_of_deferred hmode
          exact .settled (.quiet nofun hneutral.quiet) hfails.not_lostConfiguring

theorem Delivery.Turnout.finished_iff {d : Delivery app} {before after : Bool}
    (hturnout : d.Turnout cx before after) :
    after = true ↔ before = true ∨ d.event = .finished := by
  cases hturnout with
  | settled heffect => exact heffect.finished_iff
  | leftBound hevent => exact (or_iff_left hevent).symm
  | strayed hevent => exact (or_iff_left hevent).symm

theorem Delivery.Turnout.empties {d : Delivery app} {before after : Bool}
    (hevent : d.event = .finished) (hturnout : d.Turnout cx before after) :
    Empties cx d.deeds := by
  cases hturnout with
  | settled heffect =>
      cases heffect with
      | quiet hother => exact absurd hevent hother
      | opened hother => exact absurd hevent hother
      | refused hother => exact absurd hevent hother
      | emptied _ hempties => exact hempties
  | leftBound hother => exact absurd hevent hother
  | strayed hother => exact absurd hevent hother

/-! ## What has become of the handle -/

/-- No handle has been obtained by the deeds, or one; and what is bound in the
context then. -/
inductive Standing (ds : List (WorkDeed app)) : Context → Prop where
  | clear (handed : handed ds = []) (closings : ∀ h, closings h ds = 0)
      (kept : ¬ LostConfiguring ds) : Standing ds .empty
  | bound {h : Handle} (handed : handed ds = [h]) (closings : closings h ds = 0)
      (kept : ¬ LostConfiguring ds) : Standing ds (Context.empty.bind h).2
  | closed {h : Handle} (handed : handed ds = [h]) (closings : closings h ds = 1)
      (kept : ¬ LostConfiguring ds) : Standing ds .empty
  | astray {h : Handle} (handed : handed ds = [h]) (closings : closings h ds = 0)
      (lost : LostConfiguring ds) : Standing ds .empty

namespace Standing

variable {bindings : Context}

theorem handles_bind_empty : (Context.empty.bind h).2.handles = [h] := rfl

/-- Where nothing is obtained or closed any more, nothing becomes of the handle. -/
theorem keep (hstanding : Standing ds bindings) (hhanded : handed es = [])
    (hkept : ¬ LostConfiguring es) (hclosings : ∀ h, closings h es = 0) :
    Standing (ds ++ es) bindings := by
  have hall : handed (ds ++ es) = handed ds := by
    rw [handed_append, hhanded, List.append_nil]
  have hsame : ∀ h, closings h (ds ++ es) = closings h ds := by
    intro h
    rw [closings_append, hclosings, Nat.add_zero]
  have hlost : LostConfiguring (ds ++ es) ↔ LostConfiguring ds := by
    rw [lostConfiguring_append]
    exact or_iff_left hkept
  cases hstanding with
  | clear hds hzero hds' =>
      exact .clear (hall.trans hds) (fun h => (hsame h).trans (hzero h)) (hlost.not.mpr hds')
  | bound hds hzero hds' =>
      exact .bound (hall.trans hds) ((hsame _).trans hzero) (hlost.not.mpr hds')
  | closed hds hone hds' =>
      exact .closed (hall.trans hds) ((hsame _).trans hone) (hlost.not.mpr hds')
  | astray hds hzero hds' =>
      exact .astray (hall.trans hds) ((hsame _).trans hzero) (hlost.mpr hds')

/-- Where what is bound is closed, the handle is closed if it was bound. -/
theorem sweep (hstanding : Standing ds bindings) (hhanded : handed es = [])
    (hkept : ¬ LostConfiguring es) (hclosings : ∀ h, closings h es = bindings.handles.count h) :
    Standing (ds ++ es) .empty := by
  cases hstanding with
  | clear hds hzero hds' => exact (clear hds hzero hds').keep hhanded hkept hclosings
  | @bound h hds hzero hds' =>
      have hone : closings h es = 1 := by
        rw [hclosings, handles_bind_empty, List.count_singleton_self]
      refine closed (h := h) ?_ ?_ ?_
      · rw [handed_append, hhanded, List.append_nil, hds]
      · rw [closings_append, hzero, hone]
      · rw [lostConfiguring_append]
        exact not_or.mpr ⟨hds', hkept⟩
  | closed hds hone hds' => exact (closed hds hone hds').keep hhanded hkept hclosings
  | astray hds hzero hds' => exact (astray hds hzero hds').keep hhanded hkept hclosings

/-- The handle that is obtained after nothing has been obtained. -/
theorem obtain {g : Handle} (hstanding : Standing ds bindings) (hnone : handed ds = [])
    (hg : handed es = [g]) :
    bindings = .empty ∧ ¬ LostConfiguring ds ∧ handed (ds ++ es) = [g] ∧
      ∀ h, closings h (ds ++ es) = closings h es := by
  cases hstanding with
  | clear _ hzero hkept =>
      refine ⟨rfl, hkept, ?_, fun h => ?_⟩
      · rw [handed_append, hnone, hg, List.nil_append]
      · rw [closings_append, hzero, Nat.zero_add]
  | bound hds => rw [hnone] at hds; cases hds
  | closed hds => rw [hnone] at hds; cases hds
  | astray hds => rw [hnone] at hds; cases hds

/-- The next delivery.  It obtains no handle if one has been obtained before. -/
theorem deliver {d : Delivery app} {before after : Bool} (hstanding : Standing ds bindings)
    (hcontext : w.context cx = bindings) (hsole : handed d.deeds = [] ∨ handed ds = [])
    (hspares : Workspace.Spares others cx) (hleads : Workspace.Leads others d.deeds w w')
    (hturnout : d.Turnout cx before after) : Standing (ds ++ d.deeds) (w'.context cx) := by
  subst hcontext
  have hfirst : ∀ {g}, handed d.deeds = [g] → handed ds = [] := by
    intro g hg
    refine hsole.resolve_left ?_
    rw [hg]
    exact List.cons_ne_nil g []
  have hunkept : ¬ LostConfiguring ds → ¬ LostConfiguring d.deeds →
      ¬ LostConfiguring (ds ++ d.deeds) := by
    intro hds hd
    rw [lostConfiguring_append, not_or]
    exact ⟨hds, hd⟩
  have hopens : ∀ {g}, Opens cx d.deeds g → ¬ LostConfiguring d.deeds →
      Standing (ds ++ d.deeds) (w'.context cx) := by
    intro g hopens hkept
    obtain ⟨hempty, hds, hg, hclosings⟩ := hstanding.obtain (hfirst hopens.handed) hopens.handed
    rw [hopens.context hspares hleads, hempty]
    exact .bound hg (by rw [hclosings, hopens.closings]) (hunkept hds hkept)
  cases hturnout with
  | settled heffect hkept =>
      cases heffect with
      | quiet _ hquiet =>
          rw [hquiet.context hspares hleads]
          exact hstanding.keep hquiet.handed hkept hquiet.closings
      | opened _ _ hopens' => exact hopens hopens' hkept
      | refused _ _ hrefuses =>
          obtain ⟨hempty, hds, hg, hclosings⟩ :=
            hstanding.obtain (hfirst hrefuses.handed) hrefuses.handed
          rw [hrefuses.context hspares hleads, hempty]
          exact .closed hg (by rw [hclosings, hrefuses.closings, if_pos rfl]) (hunkept hds hkept)
      | emptied _ hempties =>
          obtain ⟨hempty, hclosings⟩ := hempties.clears hspares hleads
          rw [hempty]
          exact hstanding.sweep hempties.handed hkept hclosings
  | leftBound _ hopens' hkept => exact hopens hopens' hkept
  | strayed _ hstrays hlost =>
      obtain ⟨hempty, -, hg, hclosings⟩ := hstanding.obtain (hfirst hstrays.handed) hstrays.handed
      rw [hstrays.context hspares hleads, hempty]
      exact .astray hg (by rw [hclosings, hstrays.closings])
        (lostConfiguring_append.mpr (Or.inr hlost))

/-- Once the context is empty, the handle is closed unless it has gone astray. -/
theorem closings_iff (hstanding : Standing ds bindings) (hempty : bindings = .empty) :
    (∀ h ∈ handed ds, closings h ds = 1) ↔ ¬ LostConfiguring ds := by
  cases hstanding with
  | clear hds _ hkept =>
      rw [hds]
      exact iff_of_true nofun hkept
  | bound => cases hempty
  | closed hds hone hkept =>
      rw [hds]
      exact iff_of_true (List.forall_mem_singleton.mpr hone) hkept
  | astray hds hzero hlost =>
      rw [hds]
      refine iff_of_false ?_ (not_not_intro hlost)
      intro hall
      have hone := List.forall_mem_singleton.mp hall
      rw [hzero] at hone
      cases hone

end Standing

/-! ## Histories -/

/-- The delivery starts a method. -/
def Delivery.Starts (d : Delivery app) : Prop := ∃ method, d.event = .methodStart method

/-- No two deliveries start a method, and none follows the end of the request. -/
structure Sequential (deliveries : List (Delivery app)) : Prop where
  sole : deliveries.Pairwise fun d e => ¬ (d.Starts ∧ e.Starts)
  last : deliveries.Pairwise fun d _ => d.event ≠ .finished

theorem Sequential.of_concat {deliveries : List (Delivery app)} {d : Delivery app}
    (hsequential : Sequential (deliveries ++ [d])) :
    Sequential deliveries ∧ (∀ e ∈ deliveries, e.event ≠ .finished) ∧
      (d.Starts → ∀ e ∈ deliveries, ¬ e.Starts) := by
  obtain ⟨hsole, hlast⟩ := hsequential
  rw [List.pairwise_append] at hsole hlast
  refine ⟨⟨hsole.1, hlast.1⟩, ?_, ?_⟩
  · intro e he
    exact hlast.2.2 e he d (List.mem_singleton_self d)
  · intro hd e he hstarts
    exact hsole.2.2 e he d (List.mem_singleton_self d) ⟨hstarts, hd⟩

namespace Request

variable {d : Delivery app} {deliveries : List (Delivery app)} {s t : Request × Workspace}

/-- A history without the start of a method obtains no handle. -/
theorem handed_of_history (hstarts : ∀ d ∈ deliveries, ¬ d.Starts)
    (hhistory : Follows (Request.Proceeds others) deliveries s t) :
    handed (allDeeds deliveries) = [] := by
  induction deliveries generalizing s with
  | nil => rfl
  | cons d deliveries ih =>
      obtain ⟨hd, hrest⟩ := List.forall_mem_cons.mp hstarts
      obtain ⟨between, ⟨_, -, htakes, -⟩, hlater⟩ := hhistory
      have hnone : handed d.deeds = [] :=
        htakes.handed_eq_nil fun method hevent => hd ⟨method, hevent⟩
      rw [allDeeds_cons, handed_append, hnone, ih hrest hlater]
      rfl

/-- What has become of the handle of a request, and of the request. -/
structure Stands (cx : ContextId) (deliveries : List (Delivery app)) (s : Request × Workspace) :
    Prop where
  context : s.1.context = cx
  mode : s.1.demarcator.mode = .deferred
  standing : Standing (allDeeds deliveries) (s.2.context cx)
  finished : s.1.finished = true ↔ ∃ d ∈ deliveries, d.event = .finished
  emptied : s.1.finished = true → s.2.context cx = .empty

theorem Stands.of_empty (hempty : w.context cx = .empty) :
    Stands cx ([] : List (Delivery app)) ({ context := cx }, w) where
  context := rfl
  mode := rfl
  standing := by
    show Standing _ (w.context cx)
    rw [hempty]
    exact .clear rfl (fun _ => rfl) (by simp [LostConfiguring, allDeeds])
  finished := iff_of_false nofun nofun
  emptied := nofun

/-- One more delivery. -/
theorem Stands.step (hspares : Workspace.Spares others cx) (hown : OwnFactory d.deeds)
    (hsequential : Sequential (deliveries ++ [d]))
    (hnone : d.Starts → handed (allDeeds deliveries) = [])
    (hstands : Stands cx deliveries s) (hproceeds : Request.Proceeds others s d t) :
    Stands cx (deliveries ++ [d]) t := by
  obtain ⟨hcontext, hmode, hstanding, hfinished, -⟩ := hstands
  obtain ⟨u, hmeanwhile, htakes, hleads⟩ := hproceeds
  have hunfinished : s.1.finished = false := by
    rw [← Bool.not_eq_true, hfinished]
    rintro ⟨e, he, hevent⟩
    exact hsequential.of_concat.2.1 e he hevent
  obtain ⟨hsame, hnext, hturnout⟩ := htakes.turnout hown hmode
  rw [hcontext] at hsame hturnout
  have hsole : handed d.deeds = [] ∨ handed (allDeeds deliveries) = [] := by
    by_cases hstarts : d.Starts
    · exact Or.inr (hnone hstarts)
    · exact Or.inl (htakes.handed_eq_nil fun method hevent => hstarts ⟨method, hevent⟩)
  have hall : allDeeds (deliveries ++ [d]) = allDeeds deliveries ++ d.deeds := by
    rw [allDeeds_append, allDeeds_cons]
    show _ ++ (d.deeds ++ []) = _
    rw [List.append_nil]
  refine ⟨hsame, hnext, ?_, ?_, ?_⟩
  · rw [hall]
    exact hstanding.deliver (hspares.eq_of_meanwhile hmeanwhile) hsole hspares hleads hturnout
  · rw [hturnout.finished_iff, hfinished]
    simp only [List.mem_append, List.mem_singleton, or_and_right, exists_or, exists_eq_left]
  · intro hafter
    have hevent : d.event = .finished := by
      refine (hturnout.finished_iff.mp hafter).resolve_left ?_
      rw [hunfinished]
      exact Bool.false_ne_true
    exact ((hturnout.empties hevent).clears hspares hleads).1

theorem stands_of_history (hspares : Workspace.Spares others cx)
    (hown : ∀ d ∈ deliveries, OwnFactory d.deeds) (hsequential : Sequential deliveries)
    (hempty : w.context cx = .empty)
    (hhistory : Follows (Request.Proceeds others) deliveries ({ context := cx }, w) t) :
    Stands cx deliveries t := by
  induction deliveries using List.reverseRecOn generalizing t with
  | nil =>
      rw [follows_nil.mp hhistory]
      exact .of_empty hempty
  | append_singleton deliveries d ih =>
      obtain ⟨s, hearlier, between, hproceeds, rfl⟩ := follows_append.mp hhistory
      obtain ⟨hownEarlier, hownLast⟩ := List.forall_mem_append.mp hown
      have hstands := ih hownEarlier hsequential.of_concat.1 hearlier
      refine hstands.step hspares (hownLast d (List.mem_singleton_self d)) hsequential ?_ hproceeds
      intro hstarts
      exact handed_of_history (hsequential.of_concat.2.2 hstarts) hearlier

/-! ## From the first delivery to the end -/

/-- The passage of a request: it starts in an empty context and takes deliveries
one after the other, some of which are dropped.  It ends when it has finished, or
when it is dropped itself. -/
structure Passage (others : Workspace → Workspace → Prop) (cx : ContextId)
    (deliveries : List (Delivery app)) (last : List (WorkDeed app)) (before after : Workspace) :
    Prop where
  fresh : before.context cx = .empty
  own : ∀ d ∈ deliveries, OwnFactory d.deeds
  sequential : Sequential deliveries
  runs : ∃ (request : Request) (served leaving : Workspace),
    Follows (Request.Proceeds others) deliveries ({ context := cx }, before) (request, served) ∧
      Relation.ReflTransGen others served leaving ∧
        (((∃ d ∈ deliveries, d.event = .finished) ∧ last = [] ∧ after = leaving) ∨
          (request.drop.Traces last () ∧ Workspace.Leads others last leaving after))

namespace Passage

variable {last : List (WorkDeed app)} {before after : Workspace}

theorem standing (hspares : Workspace.Spares others cx)
    (hpassage : Passage others cx deliveries last before after) :
    Standing (allDeeds deliveries ++ last) (after.context cx) ∧ after.context cx = .empty ∧
      handed last = [] ∧ ¬ LostConfiguring last := by
  obtain ⟨hfresh, hown, hsequential, request, served, leaving, hhistory, hmeanwhile, hend⟩ :=
    hpassage
  have hleaving : leaving.context cx = served.context cx := hspares.eq_of_meanwhile hmeanwhile
  have hstands : Stands cx deliveries (request, served) :=
    stands_of_history hspares hown hsequential hfresh hhistory
  have hcontext : request.context = cx := hstands.context
  rcases hend with ⟨hfinished, rfl, rfl⟩ | ⟨hdrop, hleads⟩
  · rw [hleaving, List.append_nil]
    exact ⟨hstands.standing, hstands.emptied (hstands.finished.mpr hfinished), rfl,
      by simp [LostConfiguring]⟩
  · have hhanded : handed last = [] := handed_of_action hdrop
    have hkept : ¬ LostConfiguring last := not_lostConfiguring_of_action hdrop
    have hspares' : Workspace.Spares others request.context := by
      rw [hcontext]
      exact hspares
    have hdrops := (drops_of_traces hdrop).effect hspares' hleads
    rw [hcontext, hleaving] at hdrops
    rcases hdrops with ⟨hfinished, hsame, hclosings⟩ | ⟨-, hempty, hclosings⟩
    · rw [hsame]
      have hstanding := hstands.standing.keep hhanded hkept hclosings
      exact ⟨hstanding, hstands.emptied hfinished, hhanded, hkept⟩
    · rw [hempty]
      have hstanding := hstands.standing.sweep hhanded hkept hclosings
      exact ⟨hstanding, rfl, hhanded, hkept⟩

/-- A request leaves its context empty.  The handle that it has obtained is
closed exactly once, if and only if its start was not dropped while the handle
was being configured. -/
theorem swept_iff (hspares : Workspace.Spares others cx)
    (hpassage : Passage others cx deliveries last before after) :
    after.context cx = .empty ∧
      ((∀ h ∈ handed (allDeeds deliveries), closings h (allDeeds deliveries ++ last) = 1) ↔
        ∀ d ∈ deliveries, ¬ LostConfiguring d.deeds) := by
  obtain ⟨hstanding, hempty, hhanded, hkept⟩ := hpassage.standing hspares
  refine ⟨hempty, ?_⟩
  have hclosings := hstanding.closings_iff hempty
  rw [handed_append, hhanded, List.append_nil, lostConfiguring_append, or_iff_left hkept,
    lostConfiguring_allDeeds] at hclosings
  rw [hclosings]
  push Not
  rfl

/-- A start of "keep" that is dropped while the handle is configured. -/
def keepLostConfiguring : Delivery noJobs :=
  keepDelivery (.methodStart "keep") [.heard (.create ⟨0⟩) (.ok ⟨0, ⟨0⟩⟩),
    .lost (.configure ⟨0, ⟨0⟩⟩ ({} : WorkSpec).sessionOptions)] none

/-- Finishing a request of "keep" in whose context nothing is bound. -/
def keepFinished : Delivery noJobs :=
  keepDelivery .finished (ContextId.emptyDeeds ⟨0⟩ none) (some (.ok ()))

theorem takes_keepStart_dropped {ds : List (WorkDeed noJobs)} {request : Request}
    (hcontext : request.context = ⟨0⟩)
    (hstarts : request.demarcator.Starts (.lone ⟨0⟩) ⟨0⟩ (some {}) ds none) :
    request.Takes (keepDelivery (.methodStart "keep") ds none) request := by
  refine .dropped rfl (traces_deliver.mpr (.startDropped ?_))
  show request.demarcator.Starts (.lone ⟨0⟩) request.context (keeping.find? "keep") _ _
  rw [keeping_find?, hcontext]
  exact hstarts

/-- Finishing a request without a unit of work empties its context. -/
theorem traces_finish_idle (found : Option (Table FactoryId Handle)) :
    ({ context := ⟨0⟩ } : Request).finish.Traces
      (ContextId.emptyDeeds ⟨0⟩ found : List (WorkDeed noJobs))
      { context := ⟨0⟩, finished := true } :=
  Action.traces_bind.mpr ⟨_, [], _, rfl, .done _, Action.traces_bind.mpr
    ⟨(), _, [], (List.append_nil _).symm, ContextId.traces_unbindAll.mpr ⟨found, rfl⟩, .done _⟩⟩

theorem sequential_keep {ds es : List (WorkDeed noJobs)} {reply : Option (Except Failure Unit)} :
    Sequential [keepDelivery (.methodStart "keep") ds none, keepDelivery .finished es reply] := by
  constructor
  · refine List.pairwise_pair.mpr ?_
    rintro ⟨-, method, hevent⟩
    cases hevent
  · exact List.pairwise_pair.mpr nofun

/-- The handle that was being configured is never closed. -/
theorem configured_handle_not_closed :
    ¬ ∀ (deliveries : List (Delivery noJobs)) (last : List (WorkDeed noJobs))
      (before after : Workspace), Passage Eq ⟨0⟩ deliveries last before after →
        (∀ h ∈ handed (allDeeds deliveries), closings h (allDeeds deliveries ++ last) = 1) ∧
          after.context ⟨0⟩ = .empty := by
  intro hall
  have hstart : ({ context := ⟨0⟩ } : Request).Takes keepLostConfiguring { context := ⟨0⟩ } :=
    takes_keepStart_dropped rfl (.enterDropped (Registry.resolve_lone _) .configureDropped)
  have hfinish : ({ context := ⟨0⟩ } : Request).Takes keepFinished
      { context := ⟨0⟩, finished := true } :=
    .served rfl (traces_deliver.mpr (.finished (traces_finish_idle none)))
  have hown : ∀ d ∈ [keepLostConfiguring, keepFinished], OwnFactory d.deeds := by
    refine List.forall_mem_cons.mpr ⟨?_, List.forall_mem_singleton.mpr ?_⟩
    · intro f h hmem
      rcases List.mem_cons.mp hmem with hcreated | hlost
      · cases hcreated
        rfl
      · cases List.mem_singleton.mp hlost
    · exact ownFactory_of_handed_nil rfl
  have hpassage : Passage Eq ⟨0⟩ [keepLostConfiguring, keepFinished] [] {}
      (({} : Workspace).set ⟨0⟩ .empty) :=
    ⟨rfl, hown, sequential_keep, _, _, _,
      ⟨_, ⟨_, .refl, hstart, _, rfl, _, rfl, rfl⟩, _,
        ⟨_, .refl, hfinish, leads_emptyDeeds.mpr ⟨rfl, rfl⟩⟩, rfl⟩,
      .refl, Or.inl ⟨⟨keepFinished, by simp, rfl⟩, rfl, rfl⟩⟩
  obtain ⟨hclosed, -⟩ := hall _ _ _ _ hpassage
  have hone := hclosed ⟨0, ⟨0⟩⟩ (by decide)
  revert hone
  decide

/-- A start of "keep" that is dropped while the transaction is begun. -/
def keepLostBeginning : Delivery noJobs :=
  keepDelivery (.methodStart "keep") (defaultEntered 0 none ++ [.lost (.begin ⟨0, ⟨0⟩⟩)]) none

/-- Dropping a request of "keep" that works with no handle. -/
def keepIdleDropped (found : Option (Table FactoryId Handle)) : List (WorkDeed noJobs) :=
  .did (.context (.isEmpty ⟨0⟩)) false :: .did (.emit (.requestDropped ⟨0⟩)) () ::
    ContextId.emptyDeeds ⟨0⟩ found

/-- The handle whose transaction was being begun is closed when the request is
dropped. -/
theorem begun_handle_closed :
    closings ⟨0, ⟨0⟩⟩ (allDeeds [keepLostBeginning] ++
        keepIdleDropped ((Life.keepBound 0 {}).context ⟨0⟩).bindings) = 1 ∧
      ((Life.keepBound 0 {}).set ⟨0⟩ .empty).context ⟨0⟩ = .empty := by
  have hstart : ({ context := ⟨0⟩ } : Request).Takes keepLostBeginning { context := ⟨0⟩ } :=
    takes_keepStart_dropped rfl (.enterDropped (Registry.resolve_lone _) (.beginDropped none rfl))
  have hdrop : ({ context := ⟨0⟩ } : Request).drop.Traces
      (keepIdleDropped ((Life.keepBound 0 {}).context ⟨0⟩).bindings) () := by
    refine .perform ?_
    show (emit (.requestDropped ⟨0⟩) >>= fun _ =>
      ({ context := ⟨0⟩ } : Request).finish >>= fun _ => Action.done ()).Traces _ ()
    exact Action.traces_bind.mpr ⟨(), [_], _, rfl, traces_emit.mpr rfl, Action.traces_bind.mpr
      ⟨_, _, [], (List.append_nil _).symm, traces_finish_idle _, .done ()⟩⟩
  have hleads : Workspace.Leads Eq (keepIdleDropped ((Life.keepBound 0 {}).context ⟨0⟩).bindings)
      (Life.keepBound 0 {}) ((Life.keepBound 0 {}).set ⟨0⟩ .empty) :=
    ⟨_, rfl, _, rfl, leads_emptyDeeds.mpr ⟨rfl, rfl⟩⟩
  have hpassage : Passage Eq ⟨0⟩ [keepLostBeginning]
      (keepIdleDropped ((Life.keepBound 0 {}).context ⟨0⟩).bindings) {}
      ((Life.keepBound 0 {}).set ⟨0⟩ .empty) := by
    refine ⟨rfl, List.forall_mem_singleton.mpr ?_, ⟨List.pairwise_singleton _ _,
      List.pairwise_singleton _ _⟩, _, _, _, ⟨_, ⟨_, .refl, hstart, ?_⟩, rfl⟩, .refl,
      Or.inr ⟨hdrop, hleads⟩⟩
    · exact ownFactory_defaultEntered.append (ownFactory_of_handed_nil rfl)
    · exact follows_append.mpr ⟨_, leads_defaultEntered.mpr ⟨rfl, rfl⟩, _, rfl, rfl⟩
  have hkept : ∀ d ∈ [keepLostBeginning], ¬ LostConfiguring d.deeds := by
    refine List.forall_mem_singleton.mpr ?_
    simp [LostConfiguring, keepLostBeginning, keepDelivery, defaultEntered, ContextId.bindDeeds]
  obtain ⟨hempty, hclosings⟩ := hpassage.swept_iff Workspace.spares_eq
  exact ⟨hclosings.mpr hkept ⟨0, ⟨0⟩⟩ (by decide), hempty⟩

end Passage

end Request

end Demarcation
