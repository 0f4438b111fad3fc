/-
Surroundings that answer alike.

What a routine does depends on its answers.  A handle conducts itself by what it
has been asked: `Conduct` gives its answer to each question, after the questions
before it, whoever has put them.  `Served` says that what was done was answered
so, by the contexts and by the handles, and that factories hand out handles of
their own, none twice.

Then there is not much left that two runs of a routine could differ in.
`Alone.agreeUntil` says what: a factory or a job may reply otherwise, or one of
the two may be dropped.
-/
import Demarcation.Proofs.Routing

namespace Demarcation

variable {app : Jobs} {α : Type}

/-! ## How a handle conducts itself -/

/-- What a handle may be asked. -/
inductive Question where
  | configure (options : SessionOptions)
  | begin
  | commit
  | rollback
  | execute (operation : Operation)
  | transactionActive
  | provides (type : ObjectType)
  | close

/-- The handle that is asked, and the question. -/
def WorkDeed.question? : WorkDeed app → Option (Handle × Question)
  | .did (.transactionActive h) _ => some (h, .transactionActive)
  | .did (.close h) _ => some (h, .close)
  | .did (.provides h type) _ => some (h, .provides type)
  | .heard (.configure h options) _ => some (h, .configure options)
  | .heard (.begin h) _ => some (h, .begin)
  | .heard (.commit h) _ => some (h, .commit)
  | .heard (.rollback h) _ => some (h, .rollback)
  | .heard (.execute h operation) _ => some (h, .execute operation)
  | .lost (.configure h options) => some (h, .configure options)
  | .lost (.begin h) => some (h, .begin)
  | .lost (.commit h) => some (h, .commit)
  | .lost (.rollback h) => some (h, .rollback)
  | .lost (.execute h operation) => some (h, .execute operation)
  | _ => none

theorem WorkDeed.asked?_eq {d : WorkDeed app} : d.asked? = d.question?.map Prod.fst := by
  rcases d with ⟨_ | _ | _ | _ | _, _⟩ | ⟨_ | _ | _ | _ | _ | _ | _, _⟩ |
    (_ | _ | _ | _ | _ | _ | _)
  all_goals rfl

/-- The questions that `h` is asked, in order. -/
def questionsTo (h : Handle) (deeds : List (WorkDeed app)) : List Question :=
  deeds.filterMap fun deed => deed.question?.bind fun q => if q.1 = h then some q.2 else none

@[simp] theorem questionsTo_append {h : Handle} {ds es : List (WorkDeed app)} :
    questionsTo h (ds ++ es) = questionsTo h ds ++ questionsTo h es :=
  List.filterMap_append

theorem questionsTo_of_unasked {h : Handle} {d : WorkDeed app} (hunasked : d.asked? ≠ some h) :
    questionsTo h [d] = [] := by
  rw [WorkDeed.asked?_eq] at hunasked
  cases hquestion : d.question? with
  | none => simp [questionsTo, hquestion]
  | some q =>
      have hne : q.1 ≠ h := fun hq => hunasked (by rw [hquestion, ← hq]; rfl)
      simp [questionsTo, hquestion, hne]

/-- How a handle answers, after it has been asked other questions. -/
structure Conduct where
  configure : List Question → SessionOptions → Except Failure Unit
  begin : List Question → Except Failure Unit
  commit : List Question → Except Failure Unit
  rollback : List Question → Except Failure Unit
  execute : List Question → Operation → Except Failure Outcome
  transactionActive : List Question → Bool
  provides : List Question → ObjectType → Bool

/-- A handle that conducts itself so and has been asked those questions answers like this. -/
def WorkDeed.AnsweredBy (conduct : Conduct) (questions : List Question) : WorkDeed app → Prop
  | .did (.transactionActive _) active => active = conduct.transactionActive questions
  | .did (.provides _ type) provided => provided = conduct.provides questions type
  | .heard (.configure _ options) reply => reply = conduct.configure questions options
  | .heard (.begin _) reply => reply = conduct.begin questions
  | .heard (.commit _) reply => reply = conduct.commit questions
  | .heard (.rollback _) reply => reply = conduct.rollback questions
  | .heard (.execute _ operation) reply => reply = conduct.execute questions operation
  | _ => True

/-- The handle, if one is asked, answers as it conducts itself. -/
def Conduct.Answers (conduct : Handle → Conduct) (earlier : List (WorkDeed app))
    (d : WorkDeed app) : Prop :=
  match d.asked? with
  | some h => d.AnsweredBy (conduct h) (questionsTo h earlier)
  | none => True

/-- Contexts, handles and factories have answered as they do. -/
structure Served (conduct : Handle → Conduct) (before : Workspace) (deeds : List (WorkDeed app))
    (after : Workspace) : Prop where
  leads : Workspace.Leads Eq deeds before after
  own : OwnFactory deeds
  once : (handed deeds).Nodup
  answered : Each (Conduct.Answers conduct) [] deeds

/-- What has been done up to a moment, and what comes of it later. -/
theorem Served.split {conduct : Handle → Conduct} {before after : Workspace}
    {ds es : List (WorkDeed app)} (hserved : Served conduct before (ds ++ es) after) :
    ∃ between, Served conduct before ds between ∧ Workspace.Leads Eq es between after ∧
      Each (Conduct.Answers conduct) ds es := by
  obtain ⟨between, hfirst, hlast⟩ := follows_append.mp hserved.leads
  obtain ⟨hds, hes⟩ := each_append.mp hserved.answered
  have honce := hserved.once
  rw [handed_append] at honce
  exact ⟨between, ⟨hfirst, hserved.own.left, honce.of_append_left, hds⟩, hlast, hes⟩

/-! ## Two runs of one routine -/

section AgreeUntil

variable {δ : Type} {P Q : δ → δ → Prop} {ds es : List δ}

/-- The lists are the same as far as both go, or until they part at such a pair. -/
def AgreeUntil (P : δ → δ → Prop) (ds es : List δ) : Prop :=
  ds <+: es ∨ es <+: ds ∨ ∃ pre d e, pre ++ [d] <+: ds ∧ pre ++ [e] <+: es ∧ d ≠ e ∧ P d e

theorem AgreeUntil.cons (d : δ) (h : AgreeUntil P ds es) : AgreeUntil P (d :: ds) (d :: es) := by
  rcases h with h | h | ⟨pre, x, y, hds, hes, hparted⟩
  · exact Or.inl (List.cons_prefix_cons.mpr ⟨rfl, h⟩)
  · exact Or.inr (Or.inl (List.cons_prefix_cons.mpr ⟨rfl, h⟩))
  · exact Or.inr (Or.inr ⟨d :: pre, x, y, List.cons_prefix_cons.mpr ⟨rfl, hds⟩,
      List.cons_prefix_cons.mpr ⟨rfl, hes⟩, hparted⟩)

theorem agreeUntil_of_heads {d e : δ} (hds : P d e) (hsame : d = e → AgreeUntil P ds es) :
    AgreeUntil P (d :: ds) (e :: es) := by
  by_cases hde : d = e
  · subst hde
    exact (hsame rfl).cons d
  · exact Or.inr (Or.inr ⟨[], d, e, ⟨ds, rfl⟩, ⟨es, rfl⟩, hde, hds⟩)

end AgreeUntil

section Rivals

variable {V : Vocabulary} {C : Calls}

/-- Two ways in which one command or call may go. -/
inductive Deed.Rivals : Deed V C → Deed V C → Prop where
  | did (c : V.Command) (r r' : V.Answer c) : Rivals (.did c r) (.did c r')
  | heard (c : C.Call) (r r' : C.Reply c) : Rivals (.heard c r) (.heard c r')
  | dropped (c : C.Call) (r : C.Reply c) : Rivals (.heard c r) (.lost c)
  | kept (c : C.Call) (r : C.Reply c) : Rivals (.lost c) (.heard c r)
  | lost (c : C.Call) : Rivals (.lost c) (.lost c)

theorem Action.Traces.agreeUntil {x : Action V α} {ds es ds' es' : List (Deed V C)} {a b : α}
    (h : x.Traces (ds ++ ds') a) (h' : x.Traces (es ++ es') b) :
    AgreeUntil Deed.Rivals ds es := by
  induction x generalizing ds es with
  | done value =>
      obtain ⟨hnil, -⟩ := Action.traces_done.mp h
      rw [(List.append_eq_nil_iff.mp hnil).1]
      exact Or.inl List.nil_prefix
  | perform c next ih =>
      rcases ds with _ | ⟨d, ds⟩
      · exact Or.inl List.nil_prefix
      rcases es with _ | ⟨e, es⟩
      · exact Or.inr (Or.inl List.nil_prefix)
      obtain ⟨r, rest, hd, hrest⟩ := Action.traces_perform.mp h
      obtain ⟨r', rest', he, hrest'⟩ := Action.traces_perform.mp h'
      obtain ⟨rfl, rfl⟩ := List.cons.inj hd
      obtain ⟨rfl, rfl⟩ := List.cons.inj he
      refine agreeUntil_of_heads (.did c r r') ?_
      rintro ⟨⟩
      exact ih r hrest hrest'

namespace Task

/-- The routine begins so. -/
def Begins (x : Task V C α) (ds : List (Deed V C)) : Prop := ∃ rest v, x.Traces (ds ++ rest) v

/-- Two beginnings of one routine are the same until one command or call goes otherwise. -/
theorem Begins.agreeUntil {x : Task V C α} {ds es : List (Deed V C)} (h : x.Begins ds)
    (h' : x.Begins es) : AgreeUntil Deed.Rivals ds es := by
  obtain ⟨ds', v, h⟩ := h
  obtain ⟨es', v', h'⟩ := h'
  induction x generalizing ds es with
  | done value =>
      obtain ⟨hnil, -⟩ := traces_done.mp h
      rw [(List.append_eq_nil_iff.mp hnil).1]
      exact Or.inl List.nil_prefix
  | perform c next ih =>
      rcases ds with _ | ⟨d, ds⟩
      · exact Or.inl List.nil_prefix
      rcases es with _ | ⟨e, es⟩
      · exact Or.inr (Or.inl List.nil_prefix)
      obtain ⟨r, rest, hd, hrest⟩ := traces_perform.mp h
      obtain ⟨r', rest', he, hrest'⟩ := traces_perform.mp h'
      obtain ⟨rfl, rfl⟩ := List.cons.inj hd
      obtain ⟨rfl, rfl⟩ := List.cons.inj he
      refine agreeUntil_of_heads (.did c r r') ?_
      rintro ⟨⟩
      exact ih r hrest hrest'
  | await c onDrop next ih =>
      rcases ds with _ | ⟨d, ds⟩
      · exact Or.inl List.nil_prefix
      rcases es with _ | ⟨e, es⟩
      · exact Or.inr (Or.inl List.nil_prefix)
      rcases traces_await.mp h with ⟨r, rest, hd, hrest⟩ | ⟨rest, hd, -, hrest⟩
      · obtain ⟨rfl, rfl⟩ := List.cons.inj hd
        rcases traces_await.mp h' with ⟨r', rest', he, hrest'⟩ | ⟨rest', he, -, -⟩
        · obtain ⟨rfl, rfl⟩ := List.cons.inj he
          refine agreeUntil_of_heads (.heard c r r') ?_
          rintro ⟨⟩
          exact ih r hrest hrest'
        · obtain ⟨rfl, rfl⟩ := List.cons.inj he
          exact agreeUntil_of_heads (.dropped c r) nofun
      · obtain ⟨rfl, rfl⟩ := List.cons.inj hd
        rcases traces_await.mp h' with ⟨r', rest', he, -⟩ | ⟨rest', he, -, hrest'⟩
        · obtain ⟨rfl, rfl⟩ := List.cons.inj he
          exact agreeUntil_of_heads (.kept c r') nofun
        · obtain ⟨rfl, rfl⟩ := List.cons.inj he
          exact agreeUntil_of_heads (.lost c) fun _ => hrest.agreeUntil hrest'

end Task

end Rivals

/-- It is neither up to contexts nor to handles what is replied, or no reply has come. -/
def WorkDeed.FromOutside : WorkDeed app → Prop
  | .heard (.create _) _ => True
  | .heard (.job _) _ => True
  | .lost _ => True
  | _ => False

/-- A routine has come so far by itself, from this workspace to that. -/
structure Alone (conduct : Handle → Conduct) (x : Work app α) (before : Workspace)
    (deeds : List (WorkDeed app)) (after : Workspace) : Prop where
  begins : x.Begins deeds
  served : Served conduct before deeds after

section Alone

variable {conduct : Handle → Conduct} {x : Work app α} {w u v : Workspace}
  {ds es : List (WorkDeed app)} {d e : WorkDeed app}

theorem Workspace.step_unique (h : Workspace.Step Eq w d u) (h' : Workspace.Step Eq w d v) :
    u = v := by
  rcases d with ⟨_ | _ | _ | _ | _, _⟩ | ⟨_, _⟩ | _
  · exact congrArg Prod.snd (h.symm.trans h')
  · exact h.trans h'.symm
  · exact h.trans h'.symm
  · exact h.trans h'.symm
  · exact h.trans h'.symm
  · exact h.symm.trans h'
  · exact h.symm.trans h'

theorem Workspace.leads_unique (h : Workspace.Leads Eq ds w u) (h' : Workspace.Leads Eq ds w v) :
    u = v := by
  induction ds generalizing w with
  | nil => rw [follows_nil.mp h, follows_nil.mp h']
  | cons d ds ih =>
      obtain ⟨x, hfirst, hrest⟩ := h
      obtain ⟨y, hfirst', hrest'⟩ := h'
      obtain rfl := step_unique hfirst hfirst'
      exact ih hrest hrest'

/-- Contexts and handles answer in one way. -/
theorem eq_of_rivals (hrivals : d.Rivals e) (hd : Workspace.Step Eq w d u)
    (he : Workspace.Step Eq w e v) (hanswers : Conduct.Answers conduct ds d)
    (hanswers' : Conduct.Answers conduct ds e) : d = e ∨ d.FromOutside ∨ e.FromOutside := by
  cases hrivals with
  | did c r r' =>
      refine Or.inl (congrArg _ ?_)
      cases c with
      | context => exact congrArg Prod.fst (hd.symm.trans he)
      | transactionActive => exact hanswers.trans hanswers'.symm
      | provides => exact hanswers.trans hanswers'.symm
      | close => rfl
      | emit => rfl
  | heard c r r' =>
      cases c with
      | create => exact Or.inr (Or.inl trivial)
      | job => exact Or.inr (Or.inl trivial)
      | _ => exact Or.inl (congrArg _ (hanswers.trans hanswers'.symm))
  | dropped => exact Or.inr (Or.inr trivial)
  | kept => exact Or.inr (Or.inl trivial)
  | lost => exact Or.inl rfl

/-- Two runs of one routine by itself are the same, until something from outside goes
otherwise. -/
theorem Alone.agreeUntil (h : Alone conduct x w ds u) (h' : Alone conduct x w es v) :
    AgreeUntil (fun d e => d.FromOutside ∨ e.FromOutside) ds es := by
  rcases h.begins.agreeUntil h'.begins with hprefix | hprefix |
    ⟨pre, d, e, ⟨ds, rfl⟩, ⟨es, rfl⟩, hne, hrivals⟩
  · exact Or.inl hprefix
  · exact Or.inr (Or.inl hprefix)
  · refine Or.inr (Or.inr ⟨pre, d, e, ⟨ds, rfl⟩, ⟨es, rfl⟩, hne, ?_⟩)
    have hleads := h.served.leads
    have hleads' := h'.served.leads
    have hanswers := h.served.answered
    have hanswers' := h'.served.answered
    simp only [List.append_assoc, List.singleton_append] at hleads hleads' hanswers hanswers'
    obtain ⟨y, hpre, _, hstep, -⟩ := follows_append.mp hleads
    obtain ⟨z, hpre', _, hstep', -⟩ := follows_append.mp hleads'
    obtain rfl := Workspace.leads_unique hpre hpre'
    exact (eq_of_rivals hrivals hstep hstep' hanswers.allowed_of_split
      hanswers'.allowed_of_split).resolve_left hne

end Alone

end Demarcation
