/-
JSON values.

A `Value` is what a JSON text says: the members of an object stand in the order
of their names, and of two members of one name only the later one is kept.
`Value.write` writes a value on one line.  `Value.ofText?` reads one back, from
blanks and all: every string must have a text and every number a value, and
arrays and objects may be nested less than 128 deep.

Not every value comes back as it was written.  A floating-point number that is
read is rounded twice, so that one which has been written with many digits may
come back as its neighbour.  An object whose first member has a reserved name is
an embedding: that member holds the text of a value, and this value is what is
read in place of the object.
-/
import Demarcation.Json.Skip
import Demarcation.Json.Writer
import Demarcation.Text.Order

namespace Demarcation.Json

open Text (precedes precedes_irrefl precedes_trans eq_of_not_precedes)

/-- A JSON value. -/
inductive Value where
  | null
  | flag (b : Bool)
  | number (n : Number)
  | text (s : String)
  | array (elements : List Value)
  | object (members : List (String × Value))

namespace Value

instance : Inhabited Value := ⟨null⟩

/-! ## Equality -/

mutual

/-- Whether two values are the same, members and their order included. -/
def same : Value → Value → Bool
  | null, null => true
  | flag a, flag b => a == b
  | number m, number n => m == n
  | text s, text t => s == t
  | array xs, array ys => sameElements xs ys
  | object ms, object ns => sameMembers ms ns
  | _, _ => false

def sameElements : List Value → List Value → Bool
  | [], [] => true
  | x :: xs, y :: ys => same x y && sameElements xs ys
  | _, _ => false

def sameMembers : List (String × Value) → List (String × Value) → Bool
  | [], [] => true
  | (k, x) :: ms, (l, y) :: ns => k == l && same x y && sameMembers ms ns
  | _, _ => false

end

mutual

theorem same_iff (x y : Value) : same x y = true ↔ x = y := by
  match x, y with
  | null, y => cases y <;> simp [same]
  | flag a, y => cases y <;> simp [same]
  | number n, y => cases y <;> simp [same]
  | text s, y => cases y <;> simp [same]
  | array xs, y => cases y <;> simp [same, sameElements_iff]
  | object ms, y => cases y <;> simp [same, sameMembers_iff]

theorem sameElements_iff (xs ys : List Value) : sameElements xs ys = true ↔ xs = ys := by
  match xs, ys with
  | [], [] => simp [sameElements]
  | [], _ :: _ => simp [sameElements]
  | _ :: _, [] => simp [sameElements]
  | x :: xs, y :: ys => simp [sameElements, same_iff x y, sameElements_iff xs ys]

theorem sameMembers_iff (ms ns : List (String × Value)) : sameMembers ms ns = true ↔ ms = ns := by
  match ms, ns with
  | [], [] => simp [sameMembers]
  | [], _ :: _ => simp [sameMembers]
  | _ :: _, [] => simp [sameMembers]
  | (k, x) :: ms, (l, y) :: ns =>
    simp [sameMembers, same_iff x y, sameMembers_iff ms ns]

end

instance : DecidableEq Value := fun x y => decidable_of_iff _ (same_iff x y)

/-! ## Writing -/

mutual

/-- The value on one line. -/
def write : Value → List Char
  | null => ['n', 'u', 'l', 'l']
  | flag b => writeFlag b
  | number n => n.write
  | text s => quote s
  | array elements => writeArray (writeElements elements)
  | object members => writeObject (writeMembers members)

/-- The elements, each on one line. -/
def writeElements : List Value → List (List Char)
  | [] => []
  | v :: vs => write v :: writeElements vs

/-- The members, the value of each on one line. -/
def writeMembers : List (String × Value) → List (String × List Char)
  | [] => []
  | (name, v) :: rest => (name, write v) :: writeMembers rest

end

/-! ## Reading -/

/-- Whether the name of a member comes before that of another. -/
def comesBefore (m n : String × Value) : Bool := precedes m.1.toList n.1.toList

/-- The members with one more, which takes the place of its namesake. -/
def setMember (members : List (String × Value)) (name : String) (value : Value) :
    List (String × Value) :=
  members.takeWhile (comesBefore · (name, value)) ++
    (name, value) :: members.dropWhile (!comesBefore (name, value) ·)

/-- Members in the order of their names stay so, and no name is there twice. -/
theorem pairwise_setMember {members : List (String × Value)} (name : String) (value : Value)
    (h : members.Pairwise (comesBefore · ·)) :
    (setMember members name value).Pairwise (comesBefore · ·) := by
  unfold setMember
  induction members with
  | nil => simp
  | cons m rest ih =>
    obtain ⟨first, others⟩ := List.pairwise_cons.1 h
    cases below : comesBefore m (name, value) with
    | true =>
      have le : comesBefore (name, value) m = false := by
        rw [← Bool.not_eq_true]
        intro above
        have := precedes_trans below above
        simp [precedes_irrefl] at this
      rw [List.takeWhile_cons_of_pos (by exact below), List.dropWhile_cons_of_pos (by simp [le])]
      refine List.pairwise_cons.2 ⟨fun n hn => ?_, ih others⟩
      rcases List.mem_append.1 hn with hn | hn
      · exact first n ((List.takeWhile_sublist _).mem hn)
      · rcases List.mem_cons.1 hn with rfl | hn
        · exact below
        · exact first n ((List.dropWhile_sublist _).mem hn)
    | false =>
      rw [List.takeWhile_cons_of_neg (by simp [below]), List.nil_append]
      cases above : comesBefore (name, value) m with
      | true =>
        rw [List.dropWhile_cons_of_neg (by simp [above])]
        refine List.pairwise_cons.2 ⟨fun n hn => ?_, h⟩
        rcases List.mem_cons.1 hn with rfl | hn
        · exact above
        · exact precedes_trans above (first n hn)
      | false =>
        have same : name.toList = m.1.toList := eq_of_not_precedes above below
        have behind : ∀ n ∈ rest, comesBefore (name, value) n = true := fun n hn => by
          simpa [comesBefore, same] using first n hn
        have untouched : rest.dropWhile (!comesBefore (name, value) ·) = rest := by
          cases rest with
          | nil => rfl
          | cons n rest => exact List.dropWhile_cons_of_neg (by simp [behind n (by simp)])
        rw [List.dropWhile_cons_of_pos (by simp [above]), untouched]
        exact List.pairwise_cons.2 ⟨behind, others⟩

/-- The reserved name of the member that makes an object an embedding. -/
def embeddingName : String := "$serde_json::private::RawValue"

/-- Whether the members of an object, from the first one's opening quote on,
start like those of an embedding. -/
def startsEmbedding : List Char → Bool
  | '"' :: rest => (readText rest).map Prod.fst == some embeddingName
  | _ => false

/-- The text that an embedding holds, and what follows its closing bracket.
There is no other member. -/
def readEmbedded : List Char → Option (List Char × List Char)
  | '"' :: rest => do
    let (_, rest) ← readText rest
    match skipBlanks (← skipColon rest) with
    | '"' :: rest =>
      let (content, rest) ← readText rest
      match skipBlanks rest with
      | '}' :: rest => return (content.toList, rest)
      | _ => none
    | _ => none
  | _ => none

/-- What has been read, if only blanks follow it. -/
def complete? : Option (Value × List Char) → Option Value
  | some (v, rest) => if skipBlanks rest = [] then some v else none
  | none => none

/-- How deep arrays and objects may be nested. -/
def maxDepth : Nat := 127

mutual

/-- The value at the front of a text, and the rest.  `depth` is how deep arrays
and objects may still be nested; an embedded text starts anew. -/
def readWith (fuel depth : Nat) (cs : List Char) : Option (Value × List Char) :=
  match fuel with
  | 0 => none
  | fuel + 1 =>
    match skipBlanks cs with
    | 'n' :: rest => (skipWord ['u', 'l', 'l'] rest).map (null, ·)
    | 't' :: rest => (skipWord ['r', 'u', 'e'] rest).map (flag true, ·)
    | 'f' :: rest => (skipWord ['a', 'l', 's', 'e'] rest).map (flag false, ·)
    | '"' :: rest => (readText rest).map fun (s, rest) => (text s, rest)
    | '[' :: rest =>
      match depth with
      | 0 => none
      | depth + 1 =>
        match skipBlanks rest with
        | ']' :: rest => some (array [], rest)
        | _ => (readElementsWith fuel depth [] rest).map fun (vs, rest) => (array vs, rest)
    | '{' :: rest =>
      match depth with
      | 0 => none
      | depth + 1 =>
        match skipBlanks rest with
        | '}' :: rest => some (object [], rest)
        | rest =>
          if startsEmbedding rest then do
            let (content, rest) ← readEmbedded rest
            let v ← complete? (readWith fuel maxDepth content)
            return (v, rest)
          else (readMembersWith fuel depth [] rest).map fun (ms, rest) => (object ms, rest)
    | cs => (readNumber cs).map fun (n, rest) => (number n, rest)

/-- The elements of an array from one of them on, after those that have been
read. -/
def readElementsWith (fuel depth : Nat) (read : List Value) (cs : List Char) :
    Option (List Value × List Char) :=
  match fuel with
  | 0 => none
  | fuel + 1 => do
    let (v, rest) ← readWith fuel depth cs
    match skipBlanks rest with
    | ',' :: rest => readElementsWith fuel depth (v :: read) rest
    | ']' :: rest => return ((v :: read).reverse, rest)
    | _ => none

/-- The members of an object from one of them on, after those that have been
read. -/
def readMembersWith (fuel depth : Nat) (read : List (String × Value)) (cs : List Char) :
    Option (List (String × Value) × List Char) :=
  match fuel with
  | 0 => none
  | fuel + 1 =>
    match skipBlanks cs with
    | '"' :: rest => do
      let (name, rest) ← readText rest
      let (v, rest) ← readWith fuel depth (← skipColon rest)
      match skipBlanks rest with
      | ',' :: rest => readMembersWith fuel depth (setMember read name v) rest
      | '}' :: rest => return (setMember read name v, rest)
      | _ => none
    | _ => none

end

/-- The value that a whole text holds. -/
def ofText? (text : String) : Option Value :=
  complete? (readWith (2 * text.length + 1) maxDepth text.toList)

/-! ## Parts of a value -/

/-- The members of an object. -/
def members : Value → List (String × Value)
  | object members => members
  | _ => []

/-- The member of this name, where `null` counts as absent. -/
def field? (v : Value) (name : String) : Option Value :=
  (v.members.lookup name).filter (· ≠ null)

def flag? : Value → Option Bool
  | flag b => some b
  | _ => none

def natural? : Value → Option Nat
  | number (.natural n) => some n
  | _ => none

def text? : Value → Option String
  | text s => some s
  | _ => none

def elements? : Value → Option (List Value)
  | array elements => some elements
  | _ => none

example : (ofText? "[[-0, 1e2], \x7b\"a\":1, \"a\":null\x7d] ").map (String.ofList ∘ write)
    = some "[[-0.0,100.0],\x7b\"a\":null\x7d]" := by decide +kernel
example : (ofText? "\x7b\"b\":1, \"a\":\x7b\x7d, \"b\":2\x7d").map (String.ofList ∘ write)
    = some "\x7b\"a\":\x7b\x7d,\"b\":2\x7d" := by decide +kernel

end Value

end Demarcation.Json
