/-
When a transaction is active.

A handle tells whether its transaction is active, and that is all that anybody
asks before a mutating operation is passed to it.  `Handle.Obeys` is what a
handle promises: a transaction becomes active by a begin that succeeds, and it
is over after a commit that succeeds, after any rollback and when the handle is
closed.  On this promise, a unit of work that has been completed or failed has
no active transaction, whatever has failed on the way.
-/
import Demarcation.Proofs.Effects

namespace Demarcation

variable {app : Jobs} {h : Handle} {ds es : List (WorkDeed app)}

/-! ## The contract of a handle -/

namespace Handle

/-- The deed ends the transaction of the handle. -/
def EndedBy (h : Handle) : WorkDeed app → Prop
  | .heard (.commit other) reply => other = h ∧ reply = .ok ()
  | .heard (.rollback other) _ => other = h
  | .did (.close other) _ => other = h
  | _ => False

/-- How a handle answers whether its transaction is active, which is told by the
flags before and after the deed. -/
structure Obeys (h : Handle) (before : Bool) (deed : WorkDeed app) (after : Bool) : Prop where
  asked : ∀ answer, deed = .did (.transactionActive h) answer → answer = before
  begun : before = false → after = true → deed = .heard (.begin h) (.ok ())
  ended : h.EndedBy deed → after = false

/-- The transaction of the handle is not begun. -/
def Unbegun (h : Handle) (deeds : List (WorkDeed app)) : Prop :=
  .heard (.begin h) (.ok ()) ∉ deeds

end Handle

section Obeys

variable {before after : Bool}

/-- A transaction that is not active, and is active only if it has been so before. -/
theorem inactive_of_imp (hactive : after = true → before = true) (hbefore : before = false) :
    after = false :=
  Bool.eq_false_iff.mpr (mt hactive (Bool.eq_false_iff.mp hbefore))

/-- Without a begin, a transaction that is active has been so before. -/
theorem active_of_unbegun (hunbegun : h.Unbegun ds) (hobeys : Follows h.Obeys ds before after)
    (hafter : after = true) : before = true := by
  induction ds generalizing before with
  | nil =>
      rw [← follows_nil.mp hobeys]
      exact hafter
  | cons d ds ih =>
      obtain ⟨between, hd, hrest⟩ := hobeys
      have hbetween : between = true := ih (fun h => hunbegun (List.mem_cons_of_mem d h)) hrest
      by_contra hfalse
      have hbegin := hd.begun (Bool.eq_false_iff.mpr hfalse) hbetween
      exact hunbegun (by rw [hbegin]; exact List.mem_cons_self)

theorem inactive_of_unbegun (hunbegun : h.Unbegun ds) (hobeys : Follows h.Obeys ds before after)
    (hbefore : before = false) : after = false :=
  inactive_of_imp (active_of_unbegun hunbegun hobeys) hbefore

/-- After a deed that has ended it, or that has found it inactive, a transaction is
inactive. -/
theorem inactive_of_mem {d : WorkDeed app} (hmem : d ∈ ds) (hunbegun : h.Unbegun ds)
    (hd : h.EndedBy d ∨ d = .did (.transactionActive h) false)
    (hobeys : Follows h.Obeys ds before after) : after = false := by
  obtain ⟨pre, post, rfl⟩ := List.append_of_mem hmem
  obtain ⟨u, -, v, hstep, hpost⟩ := follows_append.mp hobeys
  have hpost_unbegun : h.Unbegun post := fun h => hunbegun (by simp [h])
  refine inactive_of_unbegun hpost_unbegun hpost ?_
  rcases hd with hends | rfl
  · exact hstep.ended hends
  · -- it was inactive when it was asked for, and asking does not begin it
    have hu : false = u := hstep.asked false rfl
    cases v with
    | false => rfl
    | true => cases hstep.begun hu.symm rfl

/-- A transaction that was found active has been active before. -/
theorem active_of_asked {post : List (WorkDeed app)}
    (hobeys : Follows h.Obeys (.did (.transactionActive h) true :: post) before after) :
    before = true := by
  obtain ⟨_, hstep, -⟩ := hobeys
  exact (hstep.asked true rfl).symm

end Obeys

/-- The start of a unit of work without a transaction begins none. -/
theorem Demarcator.Starts.unbegun {demarcator : Demarcator} {registry : Registry} {cx : ContextId}
    {spec : WorkSpec} {v : Option (Except Failure Demarcator)}
    (hplain : spec.transactional = false)
    (hstarts : demarcator.Starts registry cx (some spec) ds v) : h.Unbegun ds := by
  have hentered : ∀ {g : Handle} {entered : List (WorkDeed app)} {r : Option (Except Failure Unit)},
      OpenUnit.Enters cx spec g entered r → .heard (.begin h) (.ok ()) ∉ entered := by
    intro g entered r henters
    cases henters with
    | configureDropped => simp
    | configureFailed => simp
    | bound => simp [ContextId.bindDeeds]
    | beginDropped _ htransactional => rw [hplain] at htransactional; cases htransactional
    | begun _ htransactional => rw [hplain] at htransactional; cases htransactional
  rw [Handle.Unbegun]
  cases hstarts with
  | unresolved => exact List.not_mem_nil
  | createDropped => simp
  | createFailed => simp
  | enterDropped _ henters => simp [hentered henters]
  | @refused _ factory _ _ _ _ henters removed =>
      have hunbind : .heard (.begin h) (.ok ()) ∉
          (cx.unbindDeeds factory removed : List (WorkDeed app)) := by
        cases removed <;> simp [ContextId.unbindDeeds]
      simp [hentered henters, hunbind]
  | opened _ henters => simp [hentered henters]

/-! ## Deeds that end a unit of work -/

/-- The deed is of the kind that ends units of work: nothing is awaited but a commit or
a rollback. -/
def WorkDeed.WindsUp : WorkDeed app → Prop
  | .did .. => True
  | .heard (.commit _) _ => True
  | .heard (.rollback _) _ => True
  | .lost (.commit _) => True
  | .lost (.rollback _) => True
  | _ => False

/-- Every deed is of this kind. -/
def WindsUp (deeds : List (WorkDeed app)) : Prop := ∀ deed ∈ deeds, WorkDeed.WindsUp deed

section WindsUp

variable {work : OpenUnit} {cx : ContextId}

@[simp] theorem windsUp_nil : WindsUp ([] : List (WorkDeed app)) := fun _ h => nomatch h

@[simp] theorem windsUp_cons {d : WorkDeed app} :
    WindsUp (d :: ds) ↔ WorkDeed.WindsUp d ∧ WindsUp ds := by
  simp [WindsUp]

@[simp] theorem windsUp_append : WindsUp (ds ++ es) ↔ WindsUp ds ∧ WindsUp es :=
  List.forall_mem_append

theorem WindsUp.unbegun (hds : WindsUp ds) : h.Unbegun ds := fun hmem => hds _ hmem

theorem windsUp_of_action {α : Type} {x : Step α} {value : α} (hx : x.Traces ds value) :
    WindsUp ds := by
  induction hx with
  | done => exact windsUp_nil
  | perform _ ih => exact windsUp_cons.mpr ⟨trivial, ih⟩

theorem OpenUnit.OwesEnd.windsUp {owed : Bool} (howes : work.OwesEnd ds owed) :
    WindsUp ds := by
  cases howes <;> simp [WorkDeed.WindsUp]

theorem OpenUnit.Commits.windsUp {v : Option (Except Failure Unit)}
    (hcommits : work.Commits ds v) : WindsUp ds := by
  cases hcommits with
  | notOwed howes => exact howes.windsUp
  | dropped howes => simp [howes.windsUp, WorkDeed.WindsUp]
  | failed howes => simp [howes.windsUp, WorkDeed.WindsUp]
  | committed howes => simp [howes.windsUp, WorkDeed.WindsUp]

theorem OpenUnit.RollsBack.windsUp {v : Option Unit} (hrolls : work.RollsBack ds v) :
    WindsUp ds := by
  cases hrolls with
  | notOwed howes => exact howes.windsUp
  | dropped howes => simp [howes.windsUp, WorkDeed.WindsUp]
  | failed howes => simp [howes.windsUp, WorkDeed.WindsUp]
  | rolledBack howes => simp [howes.windsUp, WorkDeed.WindsUp]

/-- When a unit of work has been rolled back, its transaction is inactive. -/
theorem OpenUnit.RollsBack.inactive {before after : Bool} (hrolls : work.RollsBack ds (some ()))
    (hplain : work.spec.transactional = false → before = false)
    (hobeys : Follows work.handle.Obeys ds before after) : after = false := by
  have hunbegun : work.handle.Unbegun ds := hrolls.windsUp.unbegun
  cases hrolls with
  | notOwed howes =>
      cases howes with
      | plain htransactional => exact inactive_of_unbegun hunbegun hobeys (hplain htransactional)
      | asked => exact inactive_of_mem List.mem_cons_self hunbegun (Or.inr rfl) hobeys
  | @failed asked _ failure =>
      have hmem : .heard (.rollback work.handle) (.error failure) ∈ asked ++
          [.heard (.rollback work.handle) (.error failure),
            .did (.emit (.rollbackFailed work.spec.unit failure)) ()] := by
        simp
      exact inactive_of_mem hmem hunbegun (Or.inl rfl) hobeys
  | @rolledBack asked =>
      have hmem : .heard (.rollback work.handle) (.ok ()) ∈ asked ++
          [.heard (.rollback work.handle) (.ok ()),
            .did (.emit (.rolledBack work.spec.unit)) ()] := by
        simp
      exact inactive_of_mem hmem hunbegun (Or.inl rfl) hobeys

theorem OpenUnit.Commits.inactive {before after : Bool}
    (hcommits : work.Commits ds (some (.ok ())))
    (hplain : work.spec.transactional = false → before = false)
    (hobeys : Follows work.handle.Obeys ds before after) : after = false := by
  have hunbegun : work.handle.Unbegun ds := hcommits.windsUp.unbegun
  cases hcommits with
  | notOwed howes =>
      cases howes with
      | plain htransactional => exact inactive_of_unbegun hunbegun hobeys (hplain htransactional)
      | asked => exact inactive_of_mem List.mem_cons_self hunbegun (Or.inr rfl) hobeys
  | @committed asked =>
      have hmem : .heard (.commit work.handle) (.ok ()) ∈ asked ++
          [.heard (.commit work.handle) (.ok ()), .did (.emit (.committed work.spec.unit)) ()] := by
        simp
      exact inactive_of_mem hmem hunbegun (Or.inl ⟨rfl, rfl⟩) hobeys

namespace Demarcator

variable {demarcator : Demarcator} {before after : Bool}

theorem Finishes.windsUp (hfinishes : demarcator.Finishes cx work ds) : WindsUp ds :=
  windsUp_of_action ((traces_finish (u := ())).mpr hfinishes)

theorem Completes.windsUp {v : Option (Except Failure Unit × Demarcator)}
    (hcompletes : demarcator.Completes cx ds v) : WindsUp ds := by
  cases hcompletes with
  | idle => exact windsUp_nil
  | commitDropped _ hcommits => exact hcommits.windsUp
  | completed _ hcommits hfinishes =>
      exact windsUp_append.mpr ⟨hcommits.windsUp, hfinishes.windsUp⟩
  | rollbackDropped _ hcommits hrolls =>
      simp [hcommits.windsUp, hrolls.windsUp, WorkDeed.WindsUp]
  | commitFailed _ hcommits hrolls hfinishes =>
      simp [hcommits.windsUp, hrolls.windsUp, hfinishes.windsUp, WorkDeed.WindsUp]

theorem Fails.windsUp {v : Option Demarcator} (hfails : demarcator.Fails cx ds v) :
    WindsUp ds := by
  cases hfails with
  | idle => exact windsUp_nil
  | dropped _ hrolls => exact hrolls.windsUp
  | failed _ hrolls hfinishes =>
      exact windsUp_append.mpr ⟨hrolls.windsUp, hfinishes.windsUp⟩

/-- When a unit of work has been completed, its transaction is inactive, whatever has
failed. -/
theorem Completes.inactive {reply : Except Failure Unit} {next : Demarcator}
    (hcurrent : demarcator.current = some work)
    (hcompletes : demarcator.Completes cx ds (some (reply, next)))
    (hplain : work.spec.transactional = false → before = false)
    (hobeys : Follows work.handle.Obeys ds before after) : after = false := by
  cases hcompletes with
  | idle hnone => rw [hcurrent] at hnone; cases hnone
  | completed hcur hcommits hfinishes =>
      obtain rfl := Option.some.inj (hcurrent.symm.trans hcur)
      obtain ⟨u, hcommitting, hfinishing⟩ := follows_append.mp hobeys
      exact inactive_of_unbegun hfinishes.windsUp.unbegun hfinishing
        (hcommits.inactive hplain hcommitting)
  | commitFailed hcur hcommits hrolls hfinishes =>
      obtain rfl := Option.some.inj (hcurrent.symm.trans hcur)
      obtain ⟨u, hcommitting, v, htold, hrest⟩ := follows_append.mp hobeys
      obtain ⟨x, hrolling, hfinishing⟩ := follows_append.mp hrest
      refine inactive_of_unbegun hfinishes.windsUp.unbegun hfinishing (hrolls.inactive ?_ hrolling)
      intro htransactional
      have hu : u = false :=
        inactive_of_unbegun hcommits.windsUp.unbegun hcommitting (hplain htransactional)
      cases v with
      | false => rfl
      | true => cases htold.begun hu rfl

theorem Fails.inactive {next : Demarcator} (hcurrent : demarcator.current = some work)
    (hfails : demarcator.Fails cx ds (some next))
    (hplain : work.spec.transactional = false → before = false)
    (hobeys : Follows work.handle.Obeys ds before after) : after = false := by
  cases hfails with
  | idle hnone => rw [hcurrent] at hnone; cases hnone
  | failed hcur hrolls hfinishes =>
      obtain rfl := Option.some.inj (hcurrent.symm.trans hcur)
      obtain ⟨u, hrolling, hfinishing⟩ := follows_append.mp hobeys
      exact inactive_of_unbegun hfinishes.windsUp.unbegun hfinishing
        (hrolls.inactive hplain hrolling)

end Demarcator

end WindsUp

end Demarcation
