/-
The SQL of entities.

What a session sends for an entity is one of four texts with the name of the entity filled
in (`Template.text`), and it is sent only if the name is a name (`IsName`): letters and
digits of ASCII and underscores, no digit in front.  `tokens?` cuts SQL into tokens, as far
as these texts need it; a quotation mark, a semicolon or a comment is beyond it.  A name
that is filled in comes out of it as one word between the tokens of the template
(`Template.tokens?_text`), so it can not be taken for more of the statement.

Identifiers of rows and documents are no part of the text.  They are bound to it in the
order of the numbers of its parameters.
-/
import Demarcation.Proofs.Outcomes

namespace Demarcation.Postgres

/-! ## Names -/

/-- A letter of ASCII. -/
def IsLetter (c : Char) : Prop := ('a' ≤ c ∧ c ≤ 'z') ∨ ('A' ≤ c ∧ c ≤ 'Z')

/-- A digit of ASCII. -/
def IsDigit (c : Char) : Prop := '0' ≤ c ∧ c ≤ '9'

instance (c : Char) : Decidable (IsLetter c) := inferInstanceAs (Decidable (_ ∨ _))

instance (c : Char) : Decidable (IsDigit c) := inferInstanceAs (Decidable (_ ∧ _))

/-- The text is made of letters, digits and underscores, and no digit comes first. -/
structure IsName (text : String) : Prop where
  nonempty : text ≠ ""
  characters : ∀ c ∈ text.toList, IsLetter c ∨ IsDigit c ∨ c = '_'
  start : ∀ c, text.toList.head? = some c → ¬ IsDigit c

theorem isAlpha_iff (c : Char) : c.isAlpha = true ↔ IsLetter c := by
  have hupper : c.isUpper = true ↔ 'A' ≤ c ∧ c ≤ 'Z' := decide_eq_true_iff
  have hlower : c.isLower = true ↔ 'a' ≤ c ∧ c ≤ 'z' :=
    Bool.and_eq_true_iff.trans (and_congr decide_eq_true_iff decide_eq_true_iff)
  calc c.isAlpha = true ↔ c.isUpper = true ∨ c.isLower = true := Bool.or_eq_true_iff
    _ ↔ IsLetter c := by rw [hupper, hlower, IsLetter, or_comm]

theorem isDigit_iff (c : Char) : c.isDigit = true ↔ IsDigit c :=
  Bool.and_eq_true_iff.trans (and_congr decide_eq_true_iff decide_eq_true_iff)

theorem continuesIdentifier_iff (c : Char) :
    continuesIdentifier c = true ↔ IsLetter c ∨ IsDigit c ∨ c = '_' := by
  have halphanum : c.isAlphanum = true ↔ c.isAlpha = true ∨ c.isDigit = true :=
    Bool.or_eq_true_iff
  rw [continuesIdentifier, Bool.or_eq_true, halphanum, isAlpha_iff, isDigit_iff, decide_eq_true_iff,
    or_assoc]

theorem not_isDigit_of_isLetter {c : Char} (h : IsLetter c) : ¬ IsDigit c := by
  simp only [IsLetter, IsDigit, Char.le_def, UInt32.le_iff_toNat_le] at h ⊢
  have hsmall : 'a'.val.toNat = 97 := rfl
  have hlarge : 'A'.val.toNat = 65 := rfl
  have hnine : '9'.val.toNat = 57 := rfl
  omega

theorem startsIdentifier_iff (c : Char) :
    startsIdentifier c = true ↔ (IsLetter c ∨ IsDigit c ∨ c = '_') ∧ ¬ IsDigit c := by
  simp only [startsIdentifier, Bool.or_eq_true, isAlpha_iff, decide_eq_true_eq]
  constructor
  · rintro (hletter | rfl)
    · exact ⟨Or.inl hletter, not_isDigit_of_isLetter hletter⟩
    · exact ⟨Or.inr (Or.inr rfl), by decide⟩
  · rintro ⟨hletter | hdigit | hunderscore, hstart⟩
    · exact Or.inl hletter
    · exact absurd hdigit hstart
    · exact Or.inr hunderscore

/-- What is accepted as the name of a table are exactly the names. -/
theorem isIdentifier_iff (text : String) : isIdentifier text = true ↔ IsName text := by
  rw [isIdentifier]
  cases hchars : text.toList with
  | nil =>
      have hempty : text = "" := String.toList_eq_nil_iff.mp hchars
      simp only [Bool.false_eq_true, false_iff]
      exact fun hname => hname.nonempty hempty
  | cons c cs =>
      simp only [Bool.and_eq_true, startsIdentifier_iff, List.all_eq_true, continuesIdentifier_iff]
      constructor
      · rintro ⟨⟨hc, hstart⟩, hcs⟩
        refine ⟨?_, ?_, ?_⟩
        · rintro rfl
          cases hchars
        · rw [hchars]
          exact List.forall_mem_cons.mpr ⟨hc, hcs⟩
        · rw [hchars]
          rintro _ ⟨⟩
          exact hstart
      · rintro ⟨-, hcharacters, hstart⟩
        rw [hchars] at hcharacters hstart
        obtain ⟨hc, hcs⟩ := List.forall_mem_cons.mp hcharacters
        exact ⟨⟨hc, hstart c rfl⟩, hcs⟩

/-- The table of an entity with this name. -/
theorem ofEntity_of_isName {entity : String} (h : IsName entity) :
    ∃ table, TableName.ofEntity entity = .ok table ∧ table.text = entity :=
  ⟨⟨entity, (isIdentifier_iff entity).mpr h⟩, dif_pos ((isIdentifier_iff entity).mpr h), rfl⟩

theorem ofEntity_of_not_isName {entity : String} (h : ¬ IsName entity) :
    TableName.ofEntity entity = .error (.invalidIdentifier entity) :=
  dif_neg (mt (isIdentifier_iff entity).mp h)

/-! ## Tokens -/

/-- A token of SQL. -/
inductive Token where
  | word (text : String)
  | mark (c : Char)
deriving DecidableEq

/-- A character of a word; a parameter begins with a dollar sign. -/
def InWord (c : Char) : Prop := (IsLetter c ∨ IsDigit c ∨ c = '_') ∨ c = '$'

instance (c : Char) : Decidable (InWord c) := inferInstanceAs (Decidable (_ ∨ _))

/-- A word, if there are any characters in it, and then these tokens.  The characters come
last first. -/
def endWord (word : List Char) (tokens : List Token) : List Token :=
  match word with
  | [] => tokens
  | c :: cs => .word (String.ofList (c :: cs).reverse) :: tokens

/-- The tokens of the rest of a text, a word of which has begun. -/
def tokensFrom? (word : List Char) : List Char → Option (List Token)
  | [] => some (endWord word [])
  | c :: cs =>
    if InWord c then tokensFrom? (c :: word) cs
    else if c = ' ' then (tokensFrom? [] cs).map (endWord word)
    else if c ∈ ['(', ')', ',', '.', '='] then
      (tokensFrom? [] cs).map fun tokens => endWord word (.mark c :: tokens)
    else none

/-- The tokens of a text, if it is as simple as this. -/
def tokens? (sql : String) : Option (List Token) := tokensFrom? [] sql.toList

section Tokens

variable {word xs ys : List Char} {before after : List Token}

theorem endWord_append (word : List Char) (before after : List Token) :
    endWord word (before ++ after) = endWord word before ++ after := by
  cases word <;> rfl

/-- A blank ends a word, and nothing that comes before it reaches over it. -/
theorem tokensFrom?_blank (hxs : tokensFrom? word xs = some before)
    (hys : tokensFrom? [] ys = some after) :
    tokensFrom? word (xs ++ ' ' :: ys) = some (before ++ after) := by
  -- The word that has begun is left free: it grows until the blank ends it.
  induction xs generalizing word before with
  | nil =>
      cases hxs
      have hblank : ¬ InWord ' ' := by decide
      simp only [List.nil_append, tokensFrom?, if_neg hblank, if_true, hys, Option.map_some]
      rw [← endWord_append, List.nil_append]
  | cons c xs ih =>
      rw [List.cons_append]
      by_cases hword : InWord c
      · simp only [tokensFrom?, if_pos hword] at hxs ⊢
        exact ih hxs
      · by_cases hblank : c = ' '
        · simp only [tokensFrom?, if_neg hword, if_pos hblank] at hxs ⊢
          obtain ⟨later, hlater, rfl⟩ := Option.map_eq_some_iff.mp hxs
          rw [ih hlater, Option.map_some, endWord_append]
        · simp only [tokensFrom?, if_neg hword, if_neg hblank] at hxs ⊢
          by_cases hmark : c ∈ ['(', ')', ',', '.', '=']
          · rw [if_pos hmark] at hxs ⊢
            obtain ⟨later, hlater, rfl⟩ := Option.map_eq_some_iff.mp hxs
            rw [ih hlater, Option.map_some, ← endWord_append, List.cons_append]
          · rw [if_neg hmark] at hxs
            cases hxs

theorem tokensFrom?_word (h : ∀ c ∈ xs, InWord c) :
    tokensFrom? word xs = some (endWord (xs.reverse ++ word) []) := by
  induction xs generalizing word with
  | nil => rfl
  | cons c xs ih =>
      obtain ⟨hc, hxs⟩ := List.forall_mem_cons.mp h
      rw [tokensFrom?, if_pos hc, ih hxs, List.reverse_cons, List.append_assoc,
        List.singleton_append]

/-- A name is a single word. -/
theorem IsName.tokens? {name : String} (h : IsName name) : tokens? name = some [.word name] := by
  rw [Postgres.tokens?, tokensFrom?_word fun c hc => Or.inl (h.characters c hc), List.append_nil]
  cases hchars : name.toList.reverse with
  | nil =>
      rw [List.reverse_eq_nil_iff] at hchars
      exact absurd (String.toList_eq_nil_iff.mp hchars) h.nonempty
  | cons c cs =>
      rw [endWord, ← hchars, List.reverse_reverse, String.ofList_toList]

end Tokens

/-! ## Templates -/

/-- A text with a gap for the name of a table. -/
inductive Template where
  | select
  | insert
  | upsert
  | delete

namespace Template

/-- What comes before the name. -/
def opening : Template → String
  | .select => "SELECT data FROM"
  | .insert | .upsert => "INSERT INTO"
  | .delete => "DELETE FROM"

/-- What comes after the name. -/
def closing : Template → String
  | .select | .delete => "WHERE id = $1"
  | .insert => "(id, data) VALUES ($1, $2)"
  | .upsert =>
    "(id, data) VALUES ($1, $2) ON CONFLICT (id) DO UPDATE SET data = EXCLUDED.data"

/-- The text with the name filled in. -/
def text (template : Template) (name : String) : String :=
  template.opening ++ " " ++ name ++ " " ++ template.closing

/-- What is bound to the parameters, in the order of their numbers. -/
def parameters (template : Template) (id : EntityId) (data : Document) : List Parameter :=
  match template with
  | .select | .delete => [.id id]
  | .insert | .upsert => [.id id, .document data]

/-- The statement for a row of a table. -/
def statement (template : Template) (table : TableName) (id : EntityId) (data : Document) :
    Statement :=
  match template with
  | .select => .select table id
  | .insert => .insert table id data
  | .upsert => .upsert table id data
  | .delete => .delete table id

variable (template : Template)

theorem statement_text (table : TableName) (id : EntityId) (data : Document) :
    (template.statement table id data).text = template.text table.text := by
  have hfill : ∀ before after : String, before ++ " " ++ table.text ++ " " ++ after =
      (before ++ " ") ++ table.text ++ (" " ++ after) := by
    intro before after
    simp only [String.append_assoc]
  rw [text, hfill]
  cases template with
  | select | insert | delete => rfl
  | upsert => exact String.append_assoc

theorem statement_parameters (table : TableName) (id : EntityId) (data : Document) :
    (template.statement table id data).parameters = template.parameters id data := by
  cases template <;> rfl

/-- The tokens before and after the gap, whatever is filled in. -/
theorem exists_tokens : ∃ before after,
    tokens? template.opening = some before ∧ tokens? template.closing = some after := by
  have hopening : (tokens? template.opening).isSome = true := by cases template <;> decide
  have hclosing : (tokens? template.closing).isSome = true := by cases template <;> decide
  obtain ⟨before, hbefore⟩ := Option.isSome_iff_exists.mp hopening
  obtain ⟨after, hafter⟩ := Option.isSome_iff_exists.mp hclosing
  exact ⟨before, after, hbefore, hafter⟩

/-- A name that is filled in is one word between the tokens of the template. -/
theorem tokens?_text {name : String} (h : IsName name) : ∃ before after,
    tokens? template.opening = some before ∧ tokens? template.closing = some after ∧
      tokens? (template.text name) = some (before ++ .word name :: after) := by
  obtain ⟨before, after, hbefore, hafter⟩ := template.exists_tokens
  have htext : (template.text name).toList =
      template.opening.toList ++ ' ' :: (name.toList ++ ' ' :: template.closing.toList) := by
    simp [text, String.toList_append]
  refine ⟨before, after, hbefore, hafter, ?_⟩
  rw [tokens?, htext]
  exact tokensFrom?_blank hbefore (tokensFrom?_blank h.tokens? hafter)

example : tokens? (Template.delete.text "users") =
    some [.word "DELETE", .word "FROM", .word "users", .word "WHERE", .word "id", .mark '=',
      .word "$1"] := by decide

example : tokens? (Template.delete.text "users; --") = none := by decide

end Template

/-! ## Operations on entities -/

/-- What can be done with the rows of an entity. -/
inductive EntityVerb where
  | find
  | contains
  | refresh
  | persist
  | merge
  | remove

namespace EntityVerb

/-- The operation on a row of an entity; only writing a row needs the document. -/
def on (verb : EntityVerb) (entity : String) (id : EntityId) (data : Document) : Operation :=
  match verb with
  | .find => .find { entity, id }
  | .contains => .contains { entity, id }
  | .refresh => .refresh { entity, id }
  | .persist => .persist { entity, id, data }
  | .merge => .merge { entity, id, data }
  | .remove => .remove { entity, id }

/-- The template of its statement. -/
def template : EntityVerb → Template
  | .find | .contains | .refresh => .select
  | .persist => .insert
  | .merge => .upsert
  | .remove => .delete

variable (verb : EntityVerb) {entity : String} (id : EntityId) (data : Document)

theorem statement?_on :
    (verb.on entity id data).statement? = (TableName.ofEntity entity).map fun table =>
      some (verb.template.statement table id data) := by
  cases verb <;> rfl

theorem statement?_of_not_isName (h : ¬ IsName entity) :
    (verb.on entity id data).statement? = .error (.invalidIdentifier entity) := by
  rw [statement?_on, ofEntity_of_not_isName h]
  rfl

theorem sends_of_isName (h : IsName entity) :
    ∃ st, (verb.on entity id data).sends = [st] ∧ st.text = verb.template.text entity ∧
      st.parameters = verb.template.parameters id data := by
  obtain ⟨table, htable, rfl⟩ := ofEntity_of_isName h
  refine ⟨verb.template.statement table id data, ?_, Template.statement_text ..,
    Template.statement_parameters ..⟩
  rw [Operation.sends, statement?_on, htable]
  rfl

end EntityVerb

namespace Session

variable {operation : Operation} {c : Connection} {way : Way} {ds : List SessionDeed}
  {v : Option (Except Failure Outcome)} {failure : Failure}

/-- An operation that has no statement fails on its connection at once. -/
theorem use_of_unnamed (hnamed : operation.statement? = .error failure)
    (h : (way.use c operation).Traces ds v) :
    v = some (.error failure) ∧ ∀ d ∈ ds, SessionDeed.SendsOnly (fun _ => False) d := by
  have hsettle : (way.settle c (.error failure)).Traces ds v := by
    rw [Way.use, runOn_eq, hnamed] at h
    exact h
  cases way with
  | inTransaction | readOnly | plain =>
      obtain ⟨_, first, rest, rfl, hfirst, hrest⟩ := Task.traces_ofAction_bind.mp hsettle
      obtain ⟨rfl, rfl⟩ := Task.traces_done.mp hrest
      rw [List.append_nil]
      exact ⟨rfl, sendsOnly_of_action hfirst⟩

/-- So nothing is sent but what comes before the operation. -/
theorem sendsOnly_of_unnamed (hnamed : operation.statement? = .error failure) :
    SendsOnly Prepares (execute operation) := by
  rw [execute_eq]
  refine sendsOnly_connect.bind fun reached => ?_
  cases reached with
  | error => exact sendsOnly_done _
  | ok reached =>
      intro ds v h d hd st hst
      exact ((use_of_unnamed hnamed h).2 d hd st hst).elim

theorem result_of_unnamed (hnamed : operation.statement? = .error failure)
    (h : (execute operation).Traces ds v) (htakes : Takes way ds) : v = some (.error failure) := by
  obtain ⟨first, rest, c, rfl, hfirst⟩ := htakes
  rw [execute_eq] at h
  have hrest := Task.traces_of_bind hfirst h
  have huse : (way.use c operation).Traces rest v := hrest
  exact (use_of_unnamed hnamed huse).1

end Session

namespace EntityVerb

open Session

/-- If the name of an entity is no name, nothing is sent that depends on it, and where there
is a connection to run the operation on, it fails with this name.  Otherwise the operation
sends one statement.  Its text is a template with the name filled in, a single word between
the tokens of the template, and the identifier and the document are bound to its parameters,
in this order.  So two operations that differ in the row only send the same text. -/
theorem sends_template (verb : EntityVerb) (entity : String) (id : EntityId) (data : Document) :
    (¬ IsName entity →
      SendsOnly Prepares (execute (verb.on entity id data)) ∧
      ∀ {way ds v}, (execute (verb.on entity id data)).Traces ds v → Takes way ds →
        v = some (.error (.invalidIdentifier entity))) ∧
    (IsName entity →
      (∃ before after, tokens? verb.template.opening = some before ∧
        tokens? verb.template.closing = some after ∧
        tokens? (verb.template.text entity) = some (before ++ .word entity :: after)) ∧
      ∀ {way ds v}, (execute (verb.on entity id data)).Traces ds v → Takes way ds →
        ∃ st, ownStatements ds = [st] ∧ st.text = verb.template.text entity ∧
          st.parameters = verb.template.parameters id data) ∧
    ∀ {id' data' way other ds es v w},
      (execute (verb.on entity id data)).Traces ds v → Takes way ds →
      (execute (verb.on entity id' data')).Traces es w → Takes other es →
      (ownStatements ds).map Statement.text = (ownStatements es).map Statement.text := by
  have hvalid : IsName entity → ∀ {id data way ds v},
      (execute (verb.on entity id data)).Traces ds v → Takes way ds →
        ∃ st, ownStatements ds = [st] ∧ st.text = verb.template.text entity ∧
          st.parameters = verb.template.parameters id data := by
    intro hname id data way ds v h htakes
    rw [(own_of_takes h htakes).1]
    exact verb.sends_of_isName id data hname
  have hinvalid : ¬ IsName entity → ∀ {id data way ds v},
      (execute (verb.on entity id data)).Traces ds v → Takes way ds → ownStatements ds = [] := by
    intro hname id data way ds v h htakes
    rw [(own_of_takes h htakes).1, Operation.sends, verb.statement?_of_not_isName id data hname]
  refine ⟨?_, ?_, ?_⟩
  · intro hname
    have hnamed := verb.statement?_of_not_isName id data hname
    exact ⟨sendsOnly_of_unnamed hnamed, result_of_unnamed hnamed⟩
  · intro hname
    exact ⟨verb.template.tokens?_text hname, hvalid hname⟩
  · intro id' data' way other ds es v w hds hway hes hother
    by_cases hname : IsName entity
    · obtain ⟨st, hst, htext, -⟩ := hvalid hname hds hway
      obtain ⟨st', hst', htext', -⟩ := hvalid hname hes hother
      rw [hst, hst', List.map_singleton, List.map_singleton, htext, htext']
    · rw [hinvalid hname hds hway, hinvalid hname hes hother]

/-- A row is looked up by the text of the template, and a name that holds more SQL than a
name is refused. -/
theorem users_sent_as_name :
    (∃ ds r st, (execute (find.on "users" ⟨1⟩ ⟨.null⟩)).Traces ds (some r) ∧ Takes .readOnly ds ∧
      ownStatements ds = [st] ∧ st.text = "SELECT data FROM users WHERE id = $1" ∧
      st.parameters = [.id ⟨1⟩]) ∧
    ∃ ds, (execute (remove.on "users; --" ⟨1⟩ ⟨.null⟩)).Traces ds
      (some (.error (.invalidIdentifier "users; --"))) ∧ Takes .plain ds := by
  have hname : IsName "users" := (isIdentifier_iff _).mp (by decide)
  have hno : ¬ IsName "users; --" := mt (isIdentifier_iff _).mpr (by decide)
  obtain ⟨ds, r, hds, hway, -⟩ :=
    exists_execute (find.on "users" ⟨1⟩ ⟨.null⟩) .readOnly (.ok {})
  obtain ⟨es, w, hes, hother, -⟩ :=
    exists_execute (remove.on "users; --" ⟨1⟩ ⟨.null⟩) .plain (.ok {})
  obtain ⟨st, hst, htext, hparameters⟩ :=
    ((sends_template find "users" ⟨1⟩ ⟨.null⟩).2.1 hname).2 hds hway
  have hw := ((sends_template remove "users; --" ⟨1⟩ ⟨.null⟩).1 hno).2 hes hother
  refine ⟨⟨ds, r, st, hds, hway, hst, ?_, hparameters⟩, es, ?_, hother⟩
  · rw [htext]
    decide
  · rw [← hw]
    exact hes

end EntityVerb

end Demarcation.Postgres
