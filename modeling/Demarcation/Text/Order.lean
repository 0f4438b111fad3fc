/-
The order of texts.

Texts are ordered like words in a dictionary, and their characters by code point.
-/

namespace Demarcation.Text

/-- Whether a text comes before another. -/
def precedes : List Char → List Char → Bool
  | [], cs => cs ≠ []
  | _ :: _, [] => false
  | a :: as, b :: bs => a.toNat < b.toNat || a.toNat == b.toNat && precedes as bs

theorem precedes_irrefl (as : List Char) : precedes as as = false := by
  induction as with
  | nil => rfl
  | cons a as ih => simp [precedes, ih]

theorem precedes_trans {as bs cs : List Char} (h : precedes as bs = true)
    (h' : precedes bs cs = true) : precedes as cs = true := by
  induction as generalizing bs cs with
  | nil => cases bs <;> cases cs <;> simp_all [precedes]
  | cons a as ih =>
    cases bs with
    | nil => simp [precedes] at h
    | cons b bs =>
      cases cs with
      | nil => simp [precedes] at h'
      | cons c cs =>
        simp only [precedes, Bool.or_eq_true, Bool.and_eq_true, decide_eq_true_eq,
          beq_iff_eq] at h h' ⊢
        rcases h with h | ⟨h, behind⟩
        · omega
        · rcases h' with h' | ⟨h', behind'⟩
          · omega
          · exact .inr ⟨h.trans h', ih behind behind'⟩

/-- Of two texts one comes before the other, or they are the same. -/
theorem eq_of_not_precedes {as bs : List Char} (h : precedes as bs = false)
    (h' : precedes bs as = false) : as = bs := by
  induction as generalizing bs with
  | nil => cases bs <;> simp_all [precedes]
  | cons a as ih =>
    cases bs with
    | nil => simp [precedes] at h'
    | cons b bs =>
      simp only [precedes, Bool.or_eq_false_iff, Bool.and_eq_false_iff, decide_eq_false_iff_not,
        beq_eq_false_iff_ne] at h h'
      have same : a.toNat = b.toNat := by omega
      rw [Char.toNat_inj.1 same, ih (h.2.resolve_left (· same)) (h'.2.resolve_left (· same.symm))]

end Demarcation.Text
