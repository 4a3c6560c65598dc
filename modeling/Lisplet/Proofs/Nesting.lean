import Lisplet.Value.Basic
import Mathlib.Tactic.Common

/-!
# Nesting

How deep forms and lists nest, and what a limit on nesting does to writing and comparing.
A text is written exactly if there is room for all levels. A comparison can also end
before it runs out of room, at the first difference.
-/

namespace Lisplet

namespace Datum

mutual

def nesting : Datum → Nat
  | .atom _ => 0
  | .list items => nestingOf items + 1

def nestingOf : List Datum → Nat
  | [] => 0
  | item :: rest => max item.nesting (nestingOf rest)

end

end Datum

namespace Expr

mutual

/-- How many forms stand inside each other at the deepest place. -/
def nesting : Expr → Nat
  | .literal _ value => value.nesting
  | .reference .. => 0
  | .apply _ callee arguments => max callee.nesting (nestingOf arguments) + 1
  | .branch _ test consequent alternate =>
      max test.nesting (max consequent.nesting alternate.nesting) + 1
  | .define _ _ value => value.nesting + 1
  | .procedure _ _ _ body => nestingOf body + 1
  | .lambda _ _ body => nestingOf body + 1
  | .quote _ form => form.nesting + 1
  | .plain value => value.nesting

def nestingOf : List Expr → Nat
  | [] => 0
  | expression :: rest => max expression.nesting (nestingOf rest)

end

theorem nesting_of_le {expressions : List Expr} {room : Nat} :
    nestingOf expressions ≤ room ↔ ∀ expression ∈ expressions, expression.nesting ≤ room := by
  induction expressions with
  | nil => simp [nestingOf]
  | cons expression rest ih => rw [nestingOf, Nat.max_le, ih, List.forall_mem_cons]

theorem not_nesting_of_le {expressions : List Expr} {room : Nat} :
    ¬nestingOf expressions ≤ room ↔ ∃ expression ∈ expressions, room < expression.nesting := by
  simp [nesting_of_le]

end Expr

namespace Value

mutual

/-- How many lists, forms and procedures stand inside each other at the deepest place. -/
def nesting : Value → Nat
  | .atom _ => 0
  | .list items => nestingOf items + 1
  | .closure procedure => Expr.nestingOf procedure.body + 1
  | .native _ => 0
  | .form expression => expression.nesting

def nestingOf : List Value → Nat
  | [] => 0
  | item :: rest => max item.nesting (nestingOf rest)

end

end Value

/-- A text, if there is room for its levels. -/
def written {Text : Type} (room levels : Nat) (text : Text) : Except Unwritable Text :=
  if levels ≤ room then .ok text else .error .tooDeep

section Writing

variable {Text Other : Type} {room levels more : Nat}

theorem written_here (text : Text) : written room 0 text = .ok text :=
  if_pos (Nat.zero_le room)

theorem written_bind (text : Text) (next : Text → Except Unwritable Other) (other : Other)
    (rest : next text = written room more other) :
    (written room levels text >>= next) = written room (max levels more) other := by
  by_cases fits : levels ≤ room
  · have goes : (written room levels text >>= next) = next text := by
      rw [written, if_pos fits]
      rfl
    have same : max levels more ≤ room ↔ more ≤ room := by
      rw [Nat.max_le, and_iff_right fits]
    rw [goes, rest]
    simp only [written, same]
  · have stops : (written room levels text >>= next) = .error .tooDeep := by
      rw [written, if_neg fits]
      rfl
    rw [stops, written, if_neg fun both => fits (Nat.max_le.mp both).1]

theorem written_pure (text : Text) (make : Text → Other) :
    (written room levels text >>= fun found => pure (make found)) =
      written room levels (make text) := by
  simp only [written]
  split <;> rfl

theorem deeper_written (inside : Nat → Except Unwritable Text) (text : Text)
    (writes : ∀ room, inside room = written room levels text) :
    deeper room (throw .tooDeep) inside = written room (levels + 1) text := by
  cases room with
  | zero => rfl
  | succ room => simp only [deeper, writes, written, Nat.add_le_add_iff_right]

end Writing

/-- What is written is also written with more room. -/
def Steady {Text : Type} (write : Nat → Except Unwritable Text) : Prop :=
  ∀ room text, write room = .ok text → write (room + 1) = .ok text

namespace Steady

variable {First Text : Type}

theorem const (result : Except Unwritable Text) : Steady fun _ => result :=
  fun _ _ same => same

theorem bind {first : Nat → Except Unwritable First}
    {next : Nat → First → Except Unwritable Text} (begins : Steady first)
    (goes : ∀ found, Steady fun room => next room found) :
    Steady fun room => first room >>= next room := by
  intro room text ends
  beta_reduce at ends ⊢
  cases wrote : first room with
  | error reason =>
      rw [wrote] at ends
      cases ends
  | ok found =>
      rw [wrote] at ends
      rw [begins room found wrote]
      exact goes found room text ends

theorem deeper {inside : Nat → Except Unwritable Text} (goes : Steady inside) :
    Steady fun room => deeper room (throw .tooDeep) inside := by
  intro room text ends
  cases room with
  | zero => cases ends
  | succ room => exact goes room text ends

end Steady

namespace Datum

mutual

theorem describe_steady (datum : Datum) : Steady datum.describeWithin := by
  cases datum with
  | atom value => exact .const _
  | list items => exact .deeper (.bind (describe_all_steady items) fun texts => .const _)

theorem describe_all_steady (items : List Datum) :
    Steady fun room => describeAllWithin room items := by
  cases items with
  | nil => exact .const _
  | cons item rest =>
      exact .bind (describe_steady item) fun text =>
        .bind (describe_all_steady rest) fun texts => .const _

end

end Datum

namespace Expr

mutual

theorem describe_steady (expression : Expr) : Steady expression.describeWithin := by
  cases expression with
  | literal location value => exact value.describe_steady
  | reference location name => exact .const _
  | apply location callee arguments =>
      exact .deeper (.bind (describe_steady callee) fun text =>
        .bind (describe_body_steady arguments) fun texts => .const _)
  | branch location test consequent alternate =>
      exact .deeper (.bind (describe_steady test) fun testText =>
        .bind (describe_steady consequent) fun consequentText =>
          .bind (describe_steady alternate) fun alternateText => .const _)
  | define location name value =>
      exact .deeper (.bind (describe_steady value) fun text => .const _)
  | procedure location name parameters body =>
      exact .deeper (.bind (describe_body_steady body) fun text => .const _)
  | lambda location parameters body =>
      exact .deeper (.bind (describe_body_steady body) fun text => .const _)
  | quote location form =>
      exact .deeper (.bind (describe_steady form) fun text => .const _)
  | plain value => exact value.describe_steady

theorem describe_body_steady (expressions : List Expr) :
    Steady fun room => describeBodyWithin room expressions := by
  cases expressions with
  | nil => exact .const _
  | cons expression rest =>
      exact .bind (describe_steady expression) fun text =>
        .bind (describe_body_steady rest) fun texts => .const _

end

end Expr

namespace Value

mutual

theorem describe_steady (value : Value) : Steady value.describeWithin := by
  cases value with
  | atom value => exact .const _
  | list items => exact .deeper (.bind (describe_all_steady items) fun texts => .const _)
  | closure procedure => exact .const _
  | native function => exact .const _
  | form expression => exact expression.describe_steady

theorem describe_all_steady (items : List Value) :
    Steady fun room => describeAllWithin room items := by
  cases items with
  | nil => exact .const _
  | cons item rest =>
      exact .bind (describe_steady item) fun text =>
        .bind (describe_all_steady rest) fun texts => .const _

end

theorem describe_of_mem {room : Nat} {items : List Value} {texts : List String}
    (described : describeAllWithin room items = .ok texts) {value : Value} (member : value ∈ items) :
    ∃ text, value.describeWithin room = .ok text := by
  induction items generalizing texts with
  | nil => cases member
  | cons item rest ih =>
      rw [describeAllWithin] at described
      cases first : item.describeWithin room with
      | error reason =>
          rw [first] at described
          cases described
      | ok text =>
          cases others : describeAllWithin room rest with
          | error reason =>
              rw [first, others] at described
              cases described
          | ok found =>
              rcases List.mem_cons.mp member with rfl | behind
              · exact ⟨text, first⟩
              · exact ih others behind

theorem describe_of_list {items : List Value} {text : String}
    (described : (Value.list items).describe = .ok text) {value : Value} (member : value ∈ items) :
    ∃ shown, value.describe = .ok shown := by
  have inside : (describeAllWithin (nestingLimit - 1) items >>= fun texts =>
      pure ("(" ++ Text.joined " " texts ++ ")")) = Except.ok text := described
  cases all : describeAllWithin (nestingLimit - 1) items with
  | error reason =>
      rw [all] at inside
      cases inside
  | ok texts =>
      obtain ⟨shown, written⟩ := describe_of_mem all member
      exact ⟨shown, value.describe_steady _ shown written⟩

end Value

/-- How a comparison ends that has to go down some levels to find things equal. -/
inductive Settles (room levels : Nat) (equal : Prop) : Option Bool → Prop where
  | same (holds : equal) (fits : levels ≤ room) : Settles room levels equal (some true)
  | different (fails : ¬equal) : Settles room levels equal (some false)
  | tooDeep (exceeds : room < levels) : Settles room levels equal none

namespace Settles

variable {room levels more : Nat} {equal others : Prop} {verdict rest : Option Bool}

theorem of_decide {found : Bool} (decides : found = true ↔ equal) :
    Settles room 0 equal (some found) := by
  cases found with
  | true => exact .same (decides.mp rfl) (Nat.zero_le room)
  | false => exact .different fun holds => Bool.noConfusion (decides.mpr holds)

theorem congr (settles : Settles room levels equal verdict) (same : equal ↔ others) :
    Settles room levels others verdict :=
  propext same ▸ settles

theorem thenSame (first : Settles room levels equal verdict)
    (second : Settles room more others rest) :
    Settles room (max levels more) (equal ∧ others) (thenSame verdict rest) := by
  cases first with
  | same holds fits =>
      cases second with
      | same further enough => exact .same ⟨holds, further⟩ (Nat.max_le.mpr ⟨fits, enough⟩)
      | different fails => exact .different fun both => fails both.2
      | tooDeep exceeds => exact .tooDeep (Nat.lt_of_lt_of_le exceeds (Nat.le_max_right _ _))
  | different fails => exact .different fun both => fails both.1
  | tooDeep exceeds => exact .tooDeep (Nat.lt_of_lt_of_le exceeds (Nat.le_max_left _ _))

theorem thenSame_here {found : Bool} (decides : found = true ↔ equal)
    (second : Settles room more others rest) :
    Settles room more (equal ∧ others) (Lisplet.thenSame (some found) rest) := by
  have both := (of_decide decides).thenSame second
  rwa [Nat.zero_max] at both

theorem deeper {inside : Nat → Option Bool}
    (settles : ∀ room, Settles room levels equal (inside room)) :
    Settles room (levels + 1) equal (deeper room none inside) := by
  cases room with
  | zero => exact .tooDeep (Nat.succ_pos levels)
  | succ room =>
      change Settles (room + 1) (levels + 1) equal (inside room)
      have below := settles room
      generalize inside room = verdict at below ⊢
      cases below with
      | same holds fits => exact .same holds (Nat.succ_le_succ fits)
      | different fails => exact .different fails
      | tooDeep exceeds => exact .tooDeep (Nat.succ_lt_succ exceeds)

end Settles

end Lisplet
