/-
Parties that share no binding.

Any number of parties go on at once, in any order of their steps, and what they
do is written down in one record with the name of the party.  No two of them own
the same binding.  Then each party does what it would do by itself.  Its own part
of the record, with the handles that its factories would have given it then, is
a run of the party alone: it is answered alike, it returns what it returns, and
it finds the same bindings at each of its steps.  `Party.undisturbed` is this
result.

`Apart` is the invariant behind it.  What is bound where a party owns the binding
has been obtained by that party, and so has every handle that it asks.
-/
import Mathlib.Data.List.Pairwise
import Demarcation.Proofs.Invocation
import Demarcation.Proofs.Parties
import Demarcation.Proofs.Surroundings

namespace Demarcation

variable {app : Jobs} {α : Type}

/-! ## What a command changes -/

/-- The command may change this binding. -/
def ContextCommand.Changes : ContextCommand → ContextId → FactoryId → Prop
  | .bind cx h, other, f => cx = other ∧ h.factory = f
  | .unbind cx g, other, f => cx = other ∧ g = f
  | .unbindAll cx, other, _ => cx = other
  | .create, _, _ => False
  | .find .., _, _ => False
  | .isEmpty _, _, _ => False

namespace Workspace

variable {w u : Workspace} {c : ContextCommand} {cx : ContextId} {f : FactoryId} {h : Handle}
  {d : WorkDeed app}

theorem find?_perform (hchanges : ¬ c.Changes cx f) :
    ((w.perform c).2.context cx).find? f = (w.context cx).find? f := by
  cases c with
  | create => rfl
  | find => rfl
  | isEmpty => rfl
  | bind other g =>
      show ((w.set other ((w.context other).bind g).2).context cx).find? f = _
      rw [context_set]
      by_cases hcx : other = cx
      · subst hcx
        rw [if_pos rfl, Context.find?_bind, if_neg fun hf => hchanges ⟨rfl, hf⟩]
      · rw [if_neg hcx]
  | unbind other g =>
      show ((w.set other ((w.context other).unbind g).2).context cx).find? f = _
      rw [context_set]
      by_cases hcx : other = cx
      · subst hcx
        rw [if_pos rfl, Context.find?_unbind, if_neg fun hf => hchanges ⟨rfl, hf⟩]
      · rw [if_neg hcx]
  | unbindAll other =>
      have hne : other ≠ cx := hchanges
      show ((w.set other .empty).context cx).find? f = _
      rw [context_set, if_neg hne]

theorem context_perform (hchanges : ∀ f, ¬ c.Changes cx f) :
    (w.perform c).2.context cx = w.context cx := by
  cases c with
  | create => rfl
  | find => rfl
  | isEmpty => rfl
  | bind other g =>
      show (w.set other ((w.context other).bind g).2).context cx = _
      rw [context_set, if_neg fun hcx => hchanges _ ⟨hcx, rfl⟩]
  | unbind other g =>
      show (w.set other ((w.context other).unbind g).2).context cx = _
      rw [context_set, if_neg fun hcx => hchanges _ ⟨hcx, rfl⟩]
  | unbindAll other =>
      have hne : other ≠ cx := hchanges ⟨0⟩
      show (w.set other .empty).context cx = _
      rw [context_set, if_neg hne]

/-- What is bound has been bound before or is bound now. -/
theorem find?_perform_some (hfound : ((w.perform c).2.context cx).find? f = some h) :
    (w.context cx).find? f = some h ∨ (c = .bind cx h ∧ h.factory = f) := by
  by_cases hchanges : c.Changes cx f
  · cases c with
    | create => cases hchanges
    | find => cases hchanges
    | isEmpty => cases hchanges
    | bind other g =>
        obtain ⟨rfl, hf⟩ := hchanges
        have hbound : ((w.set other ((w.context other).bind g).2).context other).find? f = some h :=
          hfound
        rw [context_set_self, Context.find?_bind, if_pos hf] at hbound
        obtain rfl := Option.some.inj hbound
        exact Or.inr ⟨rfl, hf⟩
    | unbind other g =>
        obtain ⟨rfl, rfl⟩ := hchanges
        have hbound :
            ((w.set other ((w.context other).unbind g).2).context other).find? g = some h :=
          hfound
        rw [context_set_self, Context.find?_unbind, if_pos rfl] at hbound
        cases hbound
    | unbindAll other =>
        obtain rfl : other = cx := hchanges
        have hbound : ((w.set other .empty).context other).find? f = some h := hfound
        rw [context_set_self] at hbound
        cases hbound
  · rw [find?_perform hchanges] at hfound
    exact Or.inl hfound

/-- Only a command to a context changes anything. -/
theorem step_cases (hstep : Step Eq w d u) :
    (d.command? = none ∧ u = w) ∨
      ∃ c answer, d = .did (.context c) answer ∧ w.perform c = (answer, u) := by
  rcases d with ⟨c | _ | _ | _ | _, answer⟩ | ⟨_, _⟩ | _
  · exact Or.inr ⟨c, answer, rfl, hstep⟩
  · exact Or.inl ⟨rfl, hstep⟩
  · exact Or.inl ⟨rfl, hstep⟩
  · exact Or.inl ⟨rfl, hstep⟩
  · exact Or.inl ⟨rfl, hstep⟩
  · exact Or.inl ⟨rfl, hstep.symm⟩
  · exact Or.inl ⟨rfl, hstep.symm⟩

/-- A deed that is no command leads from a workspace to itself. -/
theorem step_self (hnone : d.command? = none) : Step Eq w d w := by
  rcases d with ⟨_ | _ | _ | _ | _, _⟩ | ⟨_, _⟩ | _
  · cases hnone
  all_goals rfl

end Workspace

/-- What a command may change is owned, if it keeps to what is owned. -/
theorem ContextCommand.Within.owns {owns : ContextId → FactoryId → Prop}
    {earlier : List (WorkDeed app)} {c : ContextCommand} {cx : ContextId} {f : FactoryId}
    (hown : OwnFactory earlier) (hwithin : c.Within owns earlier) (hchanges : c.Changes cx f) :
    owns cx f := by
  cases c with
  | create => cases hchanges
  | find => cases hchanges
  | isEmpty => cases hchanges
  | bind other h =>
      obtain ⟨rfl, rfl⟩ := hchanges
      obtain ⟨g, howns, hmem⟩ := hwithin
      rw [hown g h hmem]
      exact howns
  | unbind other g =>
      obtain ⟨rfl, rfl⟩ := hchanges
      exact hwithin
  | unbindAll other =>
      obtain rfl : other = cx := hchanges
      exact hwithin f

/-! ## What each party has done -/

section Record

variable {ι δ : Type} {i j : ι} {d : δ} {record past rest : List (ι × δ)}

/-- What has been done by whomever. -/
def everything (record : List (ι × δ)) : List δ := record.map Prod.snd

@[simp] theorem everything_append :
    everything (past ++ rest) = everything past ++ everything rest :=
  List.map_append

variable [DecidableEq ι]

/-- What `i` has done. -/
def own (i : ι) (record : List (ι × δ)) : List δ :=
  record.filterMap fun entry => if entry.1 = i then some entry.2 else none

@[simp] theorem own_append : own i (past ++ rest) = own i past ++ own i rest :=
  List.filterMap_append

@[simp] theorem own_self : own j [(j, d)] = [d] := by
  simp [own]

theorem own_other (hne : i ≠ j) : own i [(j, d)] = [] := by
  simp [own, hne.symm]

theorem mem_own : d ∈ own i record ↔ (i, d) ∈ record := by
  constructor
  · intro hmem
    obtain ⟨⟨j, e⟩, hentry, hsome⟩ := List.mem_filterMap.mp hmem
    split at hsome
    case isTrue hj =>
      obtain rfl : j = i := hj
      obtain rfl := Option.some.inj hsome
      exact hentry
    case isFalse => cases hsome
  · intro hmem
    exact List.mem_filterMap.mpr ⟨(i, d), hmem, if_pos rfl⟩

theorem mem_everything_of_own (hmem : d ∈ own i record) : d ∈ everything record :=
  List.mem_map.mpr ⟨(i, d), mem_own.mp hmem, rfl⟩

end Record

section Handles

variable {ι : Type} [DecidableEq ι] {i j : ι} {d : WorkDeed app} {h : Handle}
  {record past rest : List (ι × WorkDeed app)}

/-- A handle is handed out to one party. -/
theorem owner_unique (honce : (handed (everything record)).Nodup) (hi : h ∈ handed (own i record))
    (hj : h ∈ handed (own j record)) : i = j := by
  obtain ⟨d, hd, hhands⟩ := List.mem_filterMap.mp hi
  obtain ⟨e, he, hhands'⟩ := List.mem_filterMap.mp hj
  rw [everything, handed, List.filterMap_map, List.Nodup, List.pairwise_filterMap] at honce
  by_contra hne
  have hentries : (i, d) ≠ (j, e) := fun heq => hne (congrArg Prod.fst heq)
  have hsymm : Std.Symm fun x y : ι × WorkDeed app => ∀ g, (WorkDeed.handed? ∘ Prod.snd) x = some g →
      ∀ g', (WorkDeed.handed? ∘ Prod.snd) y = some g' → g ≠ g' :=
    ⟨fun _ _ hxy g hg g' hg' => (hxy g' hg' g hg).symm⟩
  exact honce.forall (mem_own.mp hd) (mem_own.mp he) hentries h hhands h hhands' rfl

theorem handed_own_sublist : (handed (own i record)).Sublist (handed (everything record)) := by
  refine List.Sublist.filterMap _ ?_
  induction record with
  | nil => exact .slnil
  | cons entry record ih =>
      by_cases hi : entry.1 = i
      · have hown : own i (entry :: record) = entry.2 :: own i record := by simp [own, hi]
        rw [hown]
        exact ih.cons_cons entry.2
      · have hown : own i (entry :: record) = own i record := by simp [own, hi]
        rw [hown]
        exact ih.cons entry.2

/-- A handle that only `i` asks is asked by all what `i` asks it. -/
theorem questionsTo_own (hasks : ∀ j d, (j, d) ∈ record → d.asked? = some h → j = i) :
    questionsTo h (own i record) = questionsTo h (everything record) := by
  induction record with
  | nil => rfl
  | cons entry record ih =>
      obtain ⟨j, d⟩ := entry
      have hrest := ih fun k e hmem => hasks k e (List.mem_cons_of_mem _ hmem)
      rw [← List.singleton_append, own_append, everything_append, questionsTo_append,
        questionsTo_append, hrest]
      congr 1
      by_cases hj : j = i
      · subst hj
        rw [own_self]
        rfl
      · have hunasked : d.asked? ≠ some h := fun hd => hj (hasks j d List.mem_cons_self hd)
        rw [own_other (Ne.symm hj)]
        exact (questionsTo_of_unasked hunasked).symm

end Handles

/-! ## The same bindings under other names -/

/-- Nothing is bound where the binding is owned. -/
structure Vacant (owns : ContextId → FactoryId → Prop) (w : Workspace) : Prop where
  unbound : ∀ cx f, owns cx f → (w.context cx).find? f = none
  empty : ∀ cx, (∀ f, owns cx f) → w.context cx = .empty

/-- Where the binding is owned, `v` binds under other names what `w` binds. -/
structure Mirrors (ρ : Handle → Handle) (owns : ContextId → FactoryId → Prop)
    (w v : Workspace) : Prop where
  found : ∀ cx f, owns cx f → (v.context cx).find? f = ((w.context cx).find? f).map ρ
  whole : ∀ cx, (∀ f, owns cx f) → v.context cx = (w.context cx).rename ρ

section Mirrors

variable {ρ : Handle → Handle} {owns : ContextId → FactoryId → Prop} {w u v : Workspace}
  {earlier : List (WorkDeed app)} {d : WorkDeed app}

theorem Vacant.mirrors (hw : Vacant owns w) (hv : Vacant owns v) : Mirrors ρ owns w v := by
  constructor
  · intro cx f howns
    rw [hw.unbound cx f howns, hv.unbound cx f howns]
    rfl
  · intro cx hwhole
    rw [hw.empty cx hwhole, hv.empty cx hwhole]
    rfl

theorem Mirrors.set {cx : ContextId} {b b' : Context} (hmirrors : Mirrors ρ owns w v)
    (hfound : ∀ f, owns cx f → b'.find? f = (b.find? f).map ρ)
    (hwhole : (∀ f, owns cx f) → b' = b.rename ρ) :
    Mirrors ρ owns (w.set cx b) (v.set cx b') := by
  constructor
  · intro other f howns
    rw [Workspace.context_set, Workspace.context_set]
    split
    case isTrue hcx =>
      subst hcx
      exact hfound f howns
    case isFalse => exact hmirrors.found other f howns
  · intro other howns
    rw [Workspace.context_set, Workspace.context_set]
    split
    case isTrue hcx =>
      subst hcx
      exact hwhole howns
    case isFalse => exact hmirrors.whole other howns

/-- A command about what is owned is answered alike. -/
theorem Mirrors.perform {c : ContextCommand} (hfactory : ∀ h, (ρ h).factory = h.factory)
    (hown : OwnFactory earlier) (hwithin : c.Within owns earlier) (hmirrors : Mirrors ρ owns w v) :
    (v.perform (c.rename ρ)).1 = c.renameAnswer ρ (w.perform c).1 ∧
      Mirrors ρ owns (w.perform c).2 (v.perform (c.rename ρ)).2 := by
  cases c with
  | create => cases hwithin
  | bind cx h =>
      obtain ⟨f, howns, hmem⟩ := hwithin
      obtain rfl := hown f h hmem
      constructor
      · show ((v.context cx).bind (ρ h)).1 = ((w.context cx).bind h).1.map ρ
        rw [Context.fst_bind, Context.fst_bind, hfactory, hmirrors.found cx _ howns]
      · refine hmirrors.set ?_ ?_
        · intro g hg
          show ((v.context cx).bind (ρ h)).2.find? g = (((w.context cx).bind h).2.find? g).map ρ
          rw [Context.find?_bind, Context.find?_bind, hfactory, hmirrors.found cx g hg]
          split <;> rfl
        · intro hwhole
          rw [hmirrors.whole cx hwhole]
          exact Context.bind_rename (hfactory h)
  | unbind cx f =>
      constructor
      · show ((v.context cx).unbind f).1 = ((w.context cx).unbind f).1.map ρ
        rw [Context.fst_unbind, Context.fst_unbind, hmirrors.found cx f hwithin]
      · refine hmirrors.set ?_ ?_
        · intro g hg
          show ((v.context cx).unbind f).2.find? g = (((w.context cx).unbind f).2.find? g).map ρ
          rw [Context.find?_unbind, Context.find?_unbind, hmirrors.found cx g hg]
          split <;> rfl
        · intro hwhole
          rw [hmirrors.whole cx hwhole]
          exact Context.unbind_rename f
  | unbindAll cx =>
      constructor
      · show (v.context cx).bindings = (w.context cx).bindings.map (Table.mapValues ρ)
        rw [hmirrors.whole cx hwithin]
        rfl
      · exact hmirrors.set (fun _ _ => rfl) fun _ => rfl
  | find cx f => exact ⟨hmirrors.found cx f hwithin, hmirrors⟩
  | isEmpty cx =>
      refine ⟨?_, hmirrors⟩
      show (v.context cx).isEmpty = (w.context cx).isEmpty
      rw [hmirrors.whole cx hwithin]
      exact Context.isEmpty_rename

/-- What the owner does it can do in the mirror. -/
theorem Mirrors.step (hfactory : ∀ h, (ρ h).factory = h.factory) (hown : OwnFactory earlier)
    (hconfined : d.Confined owns earlier) (hstep : Workspace.Step Eq w d u)
    (hmirrors : Mirrors ρ owns w v) :
    ∃ v', Workspace.Step Eq v (d.rename ρ) v' ∧ Mirrors ρ owns u v' := by
  rcases Workspace.step_cases hstep with ⟨hnone, rfl⟩ | ⟨c, answer, rfl, hperform⟩
  · have hnone' : (d.rename ρ).command? = none := by
      rw [WorkDeed.command?_rename, hnone]
      rfl
    exact ⟨v, Workspace.step_self hnone', hmirrors⟩
  · obtain ⟨hanswer, hafter⟩ := hmirrors.perform hfactory hown (hconfined.commands c rfl)
    rw [hperform] at hanswer hafter
    exact ⟨(v.perform (c.rename ρ)).2, Prod.ext hanswer rfl, hafter⟩

/-- What others do, who own no binding that is owned here, does not matter to the mirror. -/
theorem Mirrors.step_other {others : ContextId → FactoryId → Prop}
    (hdisjoint : ∀ cx f, owns cx f → ¬ others cx f) (hown : OwnFactory earlier)
    (hconfined : d.Confined others earlier) (hstep : Workspace.Step Eq w d u)
    (hmirrors : Mirrors ρ owns w v) : Mirrors ρ owns u v := by
  rcases Workspace.step_cases hstep with ⟨-, rfl⟩ | ⟨c, answer, rfl, hperform⟩
  · exact hmirrors
  · have hwithin : c.Within others earlier := hconfined.commands c rfl
    have hchanges : ∀ cx f, owns cx f → ¬ c.Changes cx f :=
      fun cx f howns hchanges => hdisjoint cx f howns (hwithin.owns hown hchanges)
    obtain rfl : (w.perform c).2 = u := congrArg Prod.snd hperform
    constructor
    · intro cx f howns
      rw [hmirrors.found cx f howns, Workspace.find?_perform (hchanges cx f howns)]
    · intro cx hwhole
      rw [hmirrors.whole cx hwhole,
        Workspace.context_perform fun f => hchanges cx f (hwhole f)]

end Mirrors

/-! ## The same answers under other names -/

/-- Other names for handles, which belong to the same factories and conduct themselves alike. -/
structure Renaming (conduct : Handle → Conduct) (ρ : Handle → Handle) : Prop where
  injective : Function.Injective ρ
  factory : ∀ h, (ρ h).factory = h.factory
  alike : ∀ h, conduct (ρ h) = conduct h

section Renaming

variable {conduct : Handle → Conduct} {ρ : Handle → Handle} {d : WorkDeed app} {h : Handle}
  {ds earlier earlier' : List (WorkDeed app)} {x : Work app α}

theorem WorkDeed.question?_rename :
    (d.rename ρ).question? = d.question?.map (Prod.map ρ id) := by
  rcases d with ⟨_ | _ | _ | _ | _, _⟩ | ⟨_ | _ | _ | _ | _ | _ | _, _⟩ |
    (_ | _ | _ | _ | _ | _ | _)
  all_goals rfl

theorem questionsTo_renamed (hinjective : Function.Injective ρ) :
    questionsTo (ρ h) (renamed ρ ds) = questionsTo h ds := by
  rw [questionsTo, renamed, List.filterMap_map, questionsTo]
  congr 1
  funext d
  rw [Function.comp_apply, WorkDeed.question?_rename]
  cases d.question? with
  | none => rfl
  | some q => simp [hinjective.eq_iff]

theorem ownFactory_renamed (hfactory : ∀ h, (ρ h).factory = h.factory) (hown : OwnFactory ds) :
    OwnFactory (renamed ρ ds) := by
  intro f h hmem
  obtain ⟨d, hd, hrename⟩ := List.mem_map.mp hmem
  rcases d with _ | ⟨call, reply⟩ | _
  · cases hrename
  · cases call with
    | create g =>
        rcases reply with failure | h'
        · cases hrename
        · cases hrename
          rw [hfactory]
          exact hown f h' hd
    | _ => cases hrename
  · cases hrename

theorem WorkDeed.asked?_rename : (d.rename ρ).asked? = d.asked?.map ρ := by
  rw [asked?_eq, question?_rename, asked?_eq, Option.map_map, Option.map_map]
  rfl

theorem WorkDeed.answeredBy_rename {c : Conduct} {questions : List Question} :
    (d.rename ρ).AnsweredBy c questions ↔ d.AnsweredBy c questions := by
  rcases d with ⟨_ | _ | _ | _ | _, _⟩ | ⟨_ | _ | _ | _ | _ | _ | _, _⟩ | _
  all_goals exact Iff.rfl

theorem Conduct.Answers.rename (hρ : Renaming conduct ρ)
    (hquestions : ∀ h, d.asked? = some h → questionsTo (ρ h) earlier' = questionsTo h earlier)
    (hanswers : Conduct.Answers conduct earlier d) :
    Conduct.Answers conduct earlier' (d.rename ρ) := by
  cases hasked : d.asked? with
  | none =>
      rw [Answers, WorkDeed.asked?_rename, hasked]
      trivial
  | some h =>
      rw [Answers, hasked] at hanswers
      rw [Answers, WorkDeed.asked?_rename, hasked]
      show (d.rename ρ).AnsweredBy (conduct (ρ h)) (questionsTo (ρ h) earlier')
      rw [hρ.alike, hquestions h hasked]
      exact WorkDeed.answeredBy_rename.mpr hanswers

theorem Task.BlindTo.begins (hblind : x.BlindTo ρ) (hbegins : x.Begins ds) :
    x.Begins (renamed ρ ds) := by
  obtain ⟨rest, v, htraces⟩ := hbegins
  refine ⟨renamed ρ rest, v.map id, ?_⟩
  rw [← renamed_append]
  exact hblind _ v htraces

/-- A routine that has begun so has ended under the one names if it has under the other. -/
theorem Task.BlindTo.traces_iff (hblind : x.BlindTo ρ) (hbegins : x.Begins ds) {v : Option α} :
    x.Traces ds v ↔ x.Traces (renamed ρ ds) v := by
  constructor
  · intro htraces
    have hrenamed := hblind ds v htraces
    rwa [Option.map_id] at hrenamed
  · intro hrenamed
    obtain ⟨rest, v', htraces⟩ := hbegins
    have hwhole := hblind _ v' htraces
    rw [renamed_append, Option.map_id] at hwhole
    obtain ⟨hrest, rfl⟩ := hrenamed.eq_of_append hwhole
    obtain rfl := List.map_eq_nil_iff.mp hrest
    rwa [List.append_nil] at htraces

end Renaming

/-! ## Parties side by side -/

section SideBySide

variable {ι : Type} [DecidableEq ι] {owns : ι → ContextId → FactoryId → Prop}
  {conduct : Handle → Conduct} {w u lone : Workspace} {i j : ι} {d : WorkDeed app} {h : Handle}
  {record past rest : List (ι × WorkDeed app)}

/-- Whatever a party has to do with is a handle that it has from a factory: what is bound
where it owns the binding, what it has gained, and what it has asked. -/
structure Apart (owns : ι → ContextId → FactoryId → Prop) (past : List (ι × WorkDeed app))
    (w : Workspace) : Prop where
  bound : ∀ i cx f h, owns i cx f → (w.context cx).find? f = some h → h ∈ handed (own i past)
  gained : ∀ i h, Gained (own i past) h → h ∈ handed (own i past)
  asked : ∀ i d, (i, d) ∈ past → ∀ h, d.asked? = some h → h ∈ handed (own i past)

/-- What a party has obtained it keeps. -/
theorem handed_own_append (hmem : h ∈ handed (own i past)) : h ∈ handed (own i (past ++ rest)) := by
  rw [own_append, handed_append]
  exact List.mem_append_left _ hmem

theorem Apart.bound_step (hdisjoint : ∀ i j cx f, owns i cx f → owns j cx f → i = j)
    (hown : OwnFactory (own j past)) (hconfined : d.Confined (owns j) (own j past))
    (hstep : Workspace.Step Eq w d u) (hapart : Apart owns past w) {cx : ContextId} {f : FactoryId}
    (howns : owns i cx f) (hfound : (u.context cx).find? f = some h) :
    h ∈ handed (own i past) := by
  rcases Workspace.step_cases hstep with ⟨-, rfl⟩ | ⟨c, answer, rfl, hperform⟩
  · exact hapart.bound i cx f h howns hfound
  · obtain rfl : (w.perform c).2 = u := congrArg Prod.snd hperform
    rcases Workspace.find?_perform_some hfound with hbefore | ⟨rfl, rfl⟩
    · exact hapart.bound i cx f h howns hbefore
    · obtain ⟨f, howns', hcreated⟩ := hconfined.commands _ rfl
      obtain rfl := hown f h hcreated
      obtain rfl := hdisjoint i j cx _ howns howns'
      exact mem_handed hcreated

theorem Apart.gained_step (hconfined : d.Confined (owns j) (own j past))
    (hstep : Workspace.Step Eq w d u) (hapart : Apart owns past w)
    (hgained : Gained (own j past ++ [d]) h) : h ∈ handed (own j past ++ [d]) := by
  rw [handed_append]
  rcases hgained.of_last with hearlier | hlast | ⟨cx, f, rfl⟩ | ⟨cx, table, rfl, hvalue⟩
  · exact List.mem_append_left _ (hapart.gained j h hearlier)
  · exact List.mem_append_right _ hlast
  · have hfound : (w.context cx).find? f = some h := congrArg Prod.fst hstep
    exact List.mem_append_left _ (hapart.bound j cx f h (hconfined.commands _ rfl) hfound)
  · have hbindings : (w.context cx).bindings = some table := congrArg Prod.fst hstep
    obtain ⟨⟨f, g⟩, hentry, rfl⟩ := List.mem_map.mp hvalue
    have hfound : (w.context cx).find? f = some g := by
      rw [Context.find?, hbindings]
      exact Table.find?_eq_some_iff.mpr hentry
    exact List.mem_append_left _ (hapart.bound j cx f g (hconfined.commands _ rfl f) hfound)

theorem Apart.step (hdisjoint : ∀ i j cx f, owns i cx f → owns j cx f → i = j)
    (hown : OwnFactory (own j past)) (hconfined : d.Confined (owns j) (own j past))
    (hstep : Workspace.Step Eq w d u) (hapart : Apart owns past w) :
    Apart owns (past ++ [(j, d)]) u := by
  constructor
  · intro i cx f h howns hfound
    exact handed_own_append (hapart.bound_step hdisjoint hown hconfined hstep howns hfound)
  · intro i h hgained
    rw [own_append] at hgained ⊢
    by_cases hi : i = j
    · subst hi
      rw [own_self] at hgained ⊢
      exact hapart.gained_step hconfined hstep hgained
    · rw [own_other hi, List.append_nil] at hgained ⊢
      exact hapart.gained i h hgained
  · intro i e hmem h hasked
    refine handed_own_append ?_
    rcases List.mem_append.mp hmem with hpast | hlast
    · exact hapart.asked i e hpast h hasked
    · obtain ⟨rfl, rfl⟩ := Prod.mk.inj (List.mem_singleton.mp hlast)
      exact hapart.gained i h (hconfined.handles h hasked)

/-- Many have acted side by side.  Each has kept to what it owns, nothing was bound there
at first, and no binding has two owners. -/
structure SideBySide (owns : ι → ContextId → FactoryId → Prop) (conduct : Handle → Conduct)
    (before : Workspace) (record : List (ι × WorkDeed app)) (after : Workspace) : Prop where
  disjoint : ∀ i j cx f, owns i cx f → owns j cx f → i = j
  vacant : ∀ i, Vacant (owns i) before
  confined : ∀ i, Each (WorkDeed.Confined (owns i)) [] (own i record)
  served : Served conduct before (everything record) after

namespace SideBySide

theorem split (hside : SideBySide owns conduct w (past ++ rest) u) :
    ∃ v, SideBySide owns conduct w past v ∧ Workspace.Leads Eq (everything rest) v u ∧
      (∀ i, Each (WorkDeed.Confined (owns i)) (own i past) (own i rest)) ∧
      Each (Conduct.Answers conduct) (everything past) (everything rest) := by
  have hserved := hside.served
  rw [everything_append] at hserved
  obtain ⟨v, hpast, hleads, hanswered⟩ := hserved.split
  have hconfined : ∀ i, Each (WorkDeed.Confined (owns i)) [] (own i past) ∧
      Each (WorkDeed.Confined (owns i)) (own i past) (own i rest) := by
    intro i
    have heach := hside.confined i
    rw [own_append] at heach
    exact each_append.mp heach
  exact ⟨v, ⟨hside.disjoint, hside.vacant, fun i => (hconfined i).1, hpast⟩, hleads,
    fun i => (hconfined i).2, hanswered⟩

/-- The last step of all. -/
theorem last (hside : SideBySide owns conduct w (past ++ [(j, d)]) u) :
    ∃ v, SideBySide owns conduct w past v ∧ Workspace.Step Eq v d u ∧
      d.Confined (owns j) (own j past) ∧ Conduct.Answers conduct (everything past) d := by
  obtain ⟨v, hpast, hleads, hconfined, hanswered⟩ := hside.split
  obtain ⟨_, hstep, hdone⟩ := hleads
  obtain rfl := follows_nil.mp hdone
  have heach := hconfined j
  rw [own_self] at heach
  exact ⟨v, hpast, hstep, heach.1, hanswered.1⟩

theorem ownFactory (hside : SideBySide owns conduct w record u) (i : ι) :
    OwnFactory (own i record) :=
  fun f h hmem => hside.served.own f h (mem_everything_of_own hmem)

theorem apart (hside : SideBySide owns conduct w record u) : Apart owns record u := by
  induction record using List.reverseRecOn generalizing u with
  | nil =>
      obtain rfl := follows_nil.mp hside.served.leads
      constructor
      · intro i cx f h howns hfound
        rw [(hside.vacant i).unbound cx f howns] at hfound
        cases hfound
      · rintro i h (hhanded | ⟨_, _, hmem⟩ | ⟨_, _, hmem, -⟩)
        · exact hhanded
        · cases hmem
        · cases hmem
      · intro i d hmem
        cases hmem
  | append_singleton past entry ih =>
      obtain ⟨j, d⟩ := entry
      obtain ⟨v, hpast, hstep, hconfined, -⟩ := hside.last
      exact (ih hpast).step hside.disjoint (hpast.ownFactory j) hconfined hstep

/-- Nobody else has asked the handles of a party. -/
theorem questionsTo_eq (hside : SideBySide owns conduct w record u)
    (hmem : h ∈ handed (own i record)) :
    questionsTo h (own i record) = questionsTo h (everything record) := by
  refine questionsTo_own ?_
  intro j d hentry hasked
  exact owner_unique hside.served.once (hside.apart.asked j d hentry h hasked) hmem

variable {ρ : Handle → Handle}

/-- What a party binds and finds among others, it binds and finds by itself. -/
theorem mirrors (hfactory : ∀ h, (ρ h).factory = h.factory)
    (hside : SideBySide owns conduct w record u) (hlone : Vacant (owns i) lone) :
    ∃ v, Workspace.Leads Eq (renamed ρ (own i record)) lone v ∧ Mirrors ρ (owns i) u v := by
  induction record using List.reverseRecOn generalizing u with
  | nil =>
      obtain rfl := follows_nil.mp hside.served.leads
      exact ⟨lone, rfl, (hside.vacant i).mirrors hlone⟩
  | append_singleton past entry ih =>
      obtain ⟨j, d⟩ := entry
      obtain ⟨u', hpast, hstep, hconfined, -⟩ := hside.last
      obtain ⟨v, hleads, hmirrors⟩ := ih hpast
      by_cases hi : i = j
      · subst hi
        obtain ⟨v', hstep', hmirrors'⟩ :=
          hmirrors.step hfactory (hpast.ownFactory i) hconfined hstep
        refine ⟨v', ?_, hmirrors'⟩
        rw [own_append, own_self, renamed_append]
        exact follows_append.mpr ⟨v, hleads, v', hstep', rfl⟩
      · refine ⟨v, ?_, ?_⟩
        · rwa [own_append, own_other hi, List.append_nil]
        · refine hmirrors.step_other ?_ (hpast.ownFactory j) hconfined hstep
          exact fun cx f howns hother => hi (hside.disjoint i j cx f howns hother)

/-- Handles answer a party among others as they answer it by itself. -/
theorem answered (hρ : Renaming conduct ρ) (hside : SideBySide owns conduct w record u) :
    Each (Conduct.Answers conduct) [] (renamed ρ (own i record)) := by
  induction record using List.reverseRecOn generalizing u with
  | nil => trivial
  | append_singleton past entry ih =>
      obtain ⟨j, d⟩ := entry
      obtain ⟨u', hpast, -, hconfined, hanswers⟩ := hside.last
      by_cases hi : i = j
      · subst hi
        rw [own_append, own_self, renamed_append]
        refine each_append.mpr ⟨ih hpast, hanswers.rename hρ ?_, trivial⟩
        intro h hasked
        have hmem := hpast.apart.gained i h (hconfined.handles h hasked)
        rw [List.nil_append, questionsTo_renamed hρ.injective, hpast.questionsTo_eq hmem]
      · rw [own_append, own_other hi, List.append_nil]
        exact ih hpast

/-- The part of one party, under other names, is a run by itself. -/
theorem served_own (hρ : Renaming conduct ρ) (hside : SideBySide owns conduct w record u)
    (hlone : Vacant (owns i) lone) :
    ∃ v, Served conduct lone (renamed ρ (own i record)) v := by
  obtain ⟨v, hleads, -⟩ := hside.mirrors hρ.factory hlone
  refine ⟨v, hleads, ownFactory_renamed hρ.factory (hside.ownFactory i), ?_, hside.answered hρ⟩
  rw [handed_renamed]
  exact (hside.served.once.sublist handed_own_sublist).map hρ.injective

end SideBySide

end SideBySide

/-! ## Undisturbed by the others -/

/-- What a party has done among others is what it does by itself, with other names for the
handles. -/
structure AsAlone {ι : Type} [DecidableEq ι] (conduct : Handle → Conduct) (ρ : Handle → Handle)
    (x : Work app α) (owns : ContextId → FactoryId → Prop) (w lone : Workspace)
    (record : List (ι × WorkDeed app)) (i : ι) : Prop where
  /-- It is a run by itself, with the answers that come then. -/
  alone : ∃ after, Alone conduct x lone (renamed ρ (own i record)) after
  /-- Any other run by itself is the same, until a factory or a job replies otherwise, or
  one of the two is dropped. -/
  unique : ∀ ds after, Alone conduct x lone ds after →
    AgreeUntil (fun d e => d.FromOutside ∨ e.FromOutside) (renamed ρ (own i record)) ds
  /-- It returns what it returns by itself. -/
  returns : ∀ v, x.Traces (own i record) v ↔ x.Traces (renamed ρ (own i record)) v
  /-- Its handles are asked, by whomever, what it asks them by itself. -/
  questions : ∀ h ∈ handed (own i record),
    questionsTo h (everything record) = questionsTo (ρ h) (renamed ρ (own i record))
  /-- At each moment its bindings are those that it has then by itself. -/
  bindings : ∀ pre post u, record = pre ++ post → Workspace.Leads Eq (everything pre) w u →
    ∃ v, Workspace.Leads Eq (renamed ρ (own i pre)) lone v ∧ Mirrors ρ owns u v

section Undisturbed

variable {ι : Type} [DecidableEq ι] {β : ι → Type} {registry : Registry}
  {declarations : Declarations} {parties : ∀ i, Party app (β i)} {conduct : Handle → Conduct}
  {w w' lone : Workspace} {record : List (ι × WorkDeed app)}

/-- Parties that share no binding do not disturb one another, in whatever order they take
their steps.  A party that looks at the names of its handles is compared under the names
that they have (`Party.blindTo_id`). -/
theorem Party.undisturbed (hproper : ∀ i, (parties i).Proper registry)
    (hdisjoint : ∀ i j cx f, (parties i).Owns registry cx f →
      (parties j).Owns registry cx f → i = j)
    (hvacant : ∀ i, Vacant ((parties i).Owns registry) w)
    (hbegins : ∀ i, ((parties i).program registry declarations).Begins (own i record))
    (hserved : Served conduct w (everything record) w') (i : ι) {ρ : Handle → Handle}
    (hρ : Renaming conduct ρ) (hblind : (parties i).BlindTo ρ)
    (hlone : Vacant ((parties i).Owns registry) lone) :
    AsAlone conduct ρ ((parties i).program registry declarations) ((parties i).Owns registry) w
      lone record i := by
  have hside : SideBySide (fun i => (parties i).Owns registry) conduct w record w' := by
    refine ⟨hdisjoint, hvacant, ?_, hserved⟩
    intro j
    obtain ⟨rest, v, htraces⟩ := hbegins j
    exact (each_append.mp (Party.conforms (hproper j) _ _ htraces)).1
  have hrenames : ((parties i).program registry declarations).BlindTo ρ :=
    Party.blindTo_program hρ.factory hblind
  obtain ⟨after, hown⟩ := hside.served_own (i := i) hρ hlone
  have halone : Alone conduct ((parties i).program registry declarations) lone
      (renamed ρ (own i record)) after := ⟨hrenames.begins (hbegins i), hown⟩
  refine ⟨⟨after, halone⟩, fun ds _ hother => halone.agreeUntil hother,
    fun v => hrenames.traces_iff (hbegins i), ?_, ?_⟩
  · intro h hmem
    rw [questionsTo_renamed hρ.injective, hside.questionsTo_eq hmem]
  · rintro pre post u rfl hleads
    obtain ⟨u', hpre, -⟩ := hside.split
    obtain rfl := Workspace.leads_unique hpre.served.leads hleads
    exact hpre.mirrors hρ.factory hlone

end Undisturbed

/-! ## Two calls in one context -/

namespace Pair

/-- The name of a unit; there are two. -/
def unit (audit : Bool) : String := if audit then "audit" else "main"

def factory (audit : Bool) : FactoryId := ⟨if audit then 1 else 0⟩

def shared (audit : Bool) : SharedHandle := ⟨⟨(factory audit).index⟩, unit audit, factory audit⟩

def registry : Registry where
  units := (Table.empty.insert "main" ⟨⟨0⟩, shared false⟩).insert "audit" ⟨⟨1⟩, shared true⟩

theorem resolve_unit (audit : Bool) : registry.resolve (unit audit) = .ok (factory audit) := by
  cases audit <;> rfl

/-- A component whose method "flush" runs in one of the units. -/
def flusher (audit : Bool) : Component Unit :=
  Component.declare { target := () } "flush" { unit := unit audit }

theorem find?_flusher (audit : Bool) :
    (flusher audit).methods.find? "flush" = some { unit := unit audit } := by
  rw [flusher, Component.declare, Table.find?_insert, if_pos rfl]

/-- Its call, in the same context for both. -/
def party (audit : Bool) : Party noJobs (Except Failure Unit) :=
  .call (flusher audit) id ⟨0⟩ "flush" fun _ cx => (shared audit).flush cx

theorem owns_iff {audit : Bool} {cx : ContextId} {f : FactoryId} :
    (party audit).Owns registry cx f ↔ cx = ⟨0⟩ ∧ f = factory audit := by
  show (cx = ⟨0⟩ ∧ ∃ spec, (flusher audit).methods.find? "flush" = some spec ∧
    registry.resolve spec.unit = .ok f) ↔ _
  rw [find?_flusher]
  constructor
  · rintro ⟨rfl, spec, hspec, hresolved⟩
    obtain rfl := Option.some.inj hspec
    rw [resolve_unit] at hresolved
    exact ⟨rfl, (Except.ok.inj hresolved).symm⟩
  · rintro ⟨rfl, rfl⟩
    exact ⟨rfl, _, rfl, resolve_unit audit⟩

theorem proper (audit : Bool) : (party audit).Proper registry :=
  ⟨.invokeFor _ _ _, SharedHandle.consults_invokeFor (owns_iff.mpr ⟨rfl, rfl⟩)⟩

theorem disjoint {a b : Bool} {cx : ContextId} {f : FactoryId}
    (ha : (party a).Owns registry cx f) (hb : (party b).Owns registry cx f) : a = b := by
  obtain ⟨-, rfl⟩ := owns_iff.mp ha
  obtain ⟨-, hsame⟩ := owns_iff.mp hb
  cases a <;> cases b <;> first | rfl | cases hsame

theorem vacant (audit : Bool) : Vacant ((party audit).Owns registry) {} :=
  ⟨fun _ _ _ => rfl, fun _ _ => rfl⟩

/-! ### What each of them does -/

def work (audit : Bool) : OpenUnit :=
  ⟨{ unit := unit audit }, ⟨(factory audit).index, factory audit⟩, factory audit⟩

def opened (audit : Bool) : List (WorkDeed noJobs) :=
  .heard (.create (factory audit)) (.ok (work audit).handle) ::
    ((.heard (.configure (work audit).handle (work audit).spec.sessionOptions) (.ok ()) ::
        (ContextId.bindDeeds ⟨0⟩ (work audit).handle none ++
          [.heard (.begin (work audit).handle) (.ok ())])) ++
      [.did (.emit (.workStarted ⟨0⟩ (unit audit) true)) ()])

def flushed (audit : Bool) : List (WorkDeed noJobs) :=
  .did (.context (.find ⟨0⟩ (factory audit))) (some (work audit).handle) ::
    ([.did (.transactionActive (work audit).handle) true] ++
      [.heard (.execute (work audit).handle .flush) (.ok .unit)])

def concluded (audit : Bool) : List (WorkDeed noJobs) :=
  ([.did (.transactionActive (work audit).handle) true] ++
      [.heard (.commit (work audit).handle) (.ok ()),
        .did (.emit (.committed (unit audit))) ()]) ++
    (work audit).releaseDeeds ⟨0⟩ (some (work audit).handle)

theorem traces (audit : Bool) (declarations : Declarations) :
    ((party audit).program registry declarations).Traces
      (opened audit ++ (flushed audit ++ concluded audit)) (some (.ok ())) := by
  have hstarts : Demarcator.Starts { mode := .immediate } registry ⟨0⟩ (some (work audit).spec)
      (opened audit) (some (.ok { mode := .immediate, current := some (work audit) })) :=
    .opened (resolve_unit audit) (.begun none rfl (.ok ()))
  have hopens : ((flusher audit).opening registry ⟨0⟩ "flush").Traces (opened audit)
      (some (.ok { mode := .immediate, current := some (work audit) })) := by
    rw [Component.opening, find?_flusher]
    exact Demarcator.traces_start.mpr hstarts
  have hinvokes : (shared audit).Invokes ⟨0⟩ .flush (flushed audit) (some (.ok .unit)) :=
    .bound (.executed (.active rfl) (.ok .unit))
  have hflushes : ((shared audit).flush ⟨0⟩ : Work noJobs _).Traces (flushed audit)
      (some (.ok ())) :=
    Task.traces_bind.mpr (Or.inl ⟨_, _, [], (List.append_nil _).symm,
      SharedHandle.traces_invoke.mpr hinvokes, .done _⟩)
  have hcompletes : Demarcator.Completes { mode := .immediate, current := some (work audit) } ⟨0⟩
      (concluded audit) (some (.ok (), { mode := .immediate })) :=
    .completed rfl (.committed (.asked rfl true)) (.immediate rfl _)
  have hconcludes : (flusher audit).Concludes registry id ⟨0⟩ "flush"
      (fun _ cx => (shared audit).flush cx) (opened audit) (flushed audit) (concluded audit)
      (.ok () : Except Failure Unit) :=
    .concluded hopens hflushes (Task.traces_bind.mpr (Or.inl ⟨_, _, [], (List.append_nil _).symm,
      Demarcator.traces_complete.mpr hcompletes, .done _⟩))
  exact Component.traces_callIn_some.mpr (Or.inr ⟨_, _, _, rfl, hconcludes⟩)

/-- Both open their units of work before the first of them ends. -/
def record : List (Bool × WorkDeed noJobs) :=
  (opened false).map (false, ·) ++ ((opened true).map (true, ·) ++
    ((flushed false).map (false, ·) ++ ((flushed true).map (true, ·) ++
      ((concluded true).map (true, ·) ++ (concluded false).map (false, ·)))))

theorem own_record (audit : Bool) :
    own audit record = opened audit ++ (flushed audit ++ concluded audit) := by
  cases audit <;> rfl

/-- A handle that does what it is asked. -/
def obliging : Conduct where
  configure _ _ := .ok ()
  begin _ := .ok ()
  commit _ := .ok ()
  rollback _ := .ok ()
  execute _ _ := .ok .unit
  transactionActive questions := questions.foldl (fun active question =>
    match question with
    | .begin => true
    | .commit | .rollback | .close => false
    | _ => active) false
  provides _ _ := true

theorem ownFactory_record : OwnFactory (everything record) := by
  have hopened : ∀ audit, OwnFactory (opened audit) := by
    intro audit g h hmem
    rcases List.mem_cons.mp hmem with hcreated | hmem
    · cases hcreated
      rfl
    · have hhanded : h ∈ handed _ := mem_handed hmem
      cases hhanded
  exact (hopened false).append ((hopened true).append (ownFactory_of_handed_nil rfl))

theorem answered_record : Each (Conduct.Answers fun _ => obliging) [] (everything record) :=
  ⟨trivial, rfl, trivial, trivial, rfl, trivial,
    trivial, rfl, trivial, trivial, rfl, trivial,
    trivial, rfl, rfl, trivial, rfl, rfl,
    rfl, rfl, trivial, trivial, trivial, trivial, trivial,
    rfl, rfl, trivial, trivial, trivial, trivial, trivial, trivial⟩

theorem served : ∃ w, Served (fun _ => obliging) {} (everything record) w :=
  ⟨_, ⟨_, rfl, _, rfl, _, rfl, _, rfl, _, rfl, _, rfl, _, rfl, _, rfl, _, rfl, _, rfl, _, rfl,
    _, rfl, _, rfl, _, rfl, _, rfl, _, rfl, _, rfl, _, rfl, _, rfl, _, rfl, _, rfl, _, rfl, _, rfl,
    _, rfl, _, rfl, _, rfl, _, rfl, _, rfl, _, rfl, _, rfl, _, rfl, _, rfl, rfl⟩,
    ownFactory_record, by decide, answered_record⟩

/-- The handles with other numbers. -/
def renumber (h : Handle) : Handle := { h with index := h.index + 2 }

theorem renaming_renumber : Renaming (fun _ => obliging) renumber := by
  refine ⟨?_, fun _ => rfl, fun _ => rfl⟩
  intro g h hsame
  rcases g with ⟨m, f⟩
  rcases h with ⟨n, f'⟩
  simpa [renumber] using hsame

end Pair

/-- Two calls on units of different factories share a context and do not disturb each
other. -/
theorem Party.pair_undisturbed :
    AsAlone (fun _ => Pair.obliging) Pair.renumber ((Pair.party false).program Pair.registry {})
        ((Pair.party false).Owns Pair.registry) {} {} Pair.record false ∧
      AsAlone (fun _ => Pair.obliging) Pair.renumber ((Pair.party true).program Pair.registry {})
        ((Pair.party true).Owns Pair.registry) {} {} Pair.record true := by
  obtain ⟨w, hserved⟩ := Pair.served
  have hbegins : ∀ audit, ((Pair.party audit).program Pair.registry {}).Begins
      (own audit Pair.record) := by
    intro audit
    refine ⟨[], some (.ok ()), ?_⟩
    rw [Pair.own_record, List.append_nil]
    exact Pair.traces audit {}
  have hblind : ∀ audit, (Pair.party audit).BlindTo Pair.renumber :=
    fun _ => SharedHandle.blindTo_invokeFor
  have hboth := fun audit => Party.undisturbed Pair.proper (fun _ _ _ _ => Pair.disjoint)
    Pair.vacant hbegins hserved audit Pair.renaming_renumber (hblind audit) (Pair.vacant audit)
  exact ⟨hboth false, hboth true⟩

end Demarcation
