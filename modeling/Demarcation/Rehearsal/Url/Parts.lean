/-
Cutting texts at a separator.
-/

namespace Demarcation.Rehearsal.Url

/-- The parts of a text between its separators, one more than there are
separators. -/
def parts (separator : Char) : List Char → List (List Char)
  | [] => [[]]
  | c :: cs =>
    if c = separator then [] :: parts separator cs
    else
      match parts separator cs with
      | [] => [[c]]
      | first :: rest => (c :: first) :: rest

/-- The text before the first separator and the text behind it, which is empty if
there is no separator. -/
def cutFirst (separator : Char) (cs : List Char) : List Char × List Char :=
  (cs.takeWhile (· ≠ separator), (cs.dropWhile (· ≠ separator)).drop 1)

theorem parts_ne_nil (separator : Char) (cs : List Char) : parts separator cs ≠ [] := by
  unfold parts
  split
  · simp
  · split
    · simp
    · split <;> simp

/-- Nothing but the separators is lost. -/
theorem intercalate_parts (separator : Char) (cs : List Char) :
    List.intercalate [separator] (parts separator cs) = cs := by
  induction cs with
  | nil => rfl
  | cons c cs ih =>
    unfold parts
    split
    · next h =>
      subst h
      cases hp : parts c cs with
      | nil => exact absurd hp (parts_ne_nil c cs)
      | cons p ps => simpa [List.intercalate, List.intersperse, hp] using ih
    · split
      · next hp => exact absurd hp (parts_ne_nil separator cs)
      · next p ps hp =>
        rw [hp] at ih
        cases ps with
        | nil => simpa [List.intercalate, List.intersperse] using ih
        | cons q qs => simpa [List.intercalate, List.intersperse] using ih

example : parts '&' "a=1&&b".toList = ["a=1".toList, [], "b".toList] := by decide +kernel

end Demarcation.Rehearsal.Url
