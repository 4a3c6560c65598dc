import Lisplet.Proofs.Grammar
import Lisplet.Proofs.Nesting
import Lisplet.Proofs.Numerals
import Mathlib.Data.List.Forall2

/-!
# Printing expressions

An expression is well formed if each of its nodes can be written down: names are
read as names, applications do not look like special forms, and literals have a
notation. A well-formed expression has a text, if there is room for its levels, and the text
spells the lexemes of the expression. This is shown by recursion on the expression, from the spellings of names,
literals and brackets.
-/

namespace Lisplet

namespace Expr

/-- What a node must be like to be written down. The condition on floats is left
open. -/
def Writable (floats : Double → Prop) : Expr → Prop
  | .literal _ (.atom (.number (.int value))) =>
      0 ≤ value ∧ value.natAbs < Nat.pow 10 Number.digitLimit
  | .literal _ (.atom (.number (.float value))) => floats value
  | .literal _ (.atom (.string _)) => True
  | .literal _ (.atom (.boolean _)) => True
  | .literal _ (.atom .nil) => True
  | .literal .. => False
  | .reference _ name => ReadsAsName name
  | .apply _ callee _ => ∀ location form, callee ≠ .reference location (SpecialForm.keyword form)
  | .branch .. => True
  | .define _ name _ => ReadsAsName name
  | .procedure _ name parameters _ =>
      ReadsAsName name ∧ ∀ parameter ∈ parameters, ReadsAsName parameter
  | .lambda _ parameters _ => ∀ parameter ∈ parameters, ReadsAsName parameter
  | .quote .. => True
  | .plain _ => False

def WellFormed (floats : Double → Prop) (expression : Expr) : Prop :=
  ∀ node ∈ expression.nodes, node.Writable floats

theorem mem_nodes (expression : Expr) : expression ∈ expression.nodes := by
  cases expression <;> exact List.mem_cons_self

theorem mem_nodes_of {node : Expr} {expressions : List Expr} :
    node ∈ nodesOf expressions ↔ ∃ expression ∈ expressions, node ∈ expression.nodes := by
  induction expressions with
  | nil => simp [nodesOf]
  | cons expression rest ih => simp [nodesOf, ih]

mutual

def unlocated : Expr → Expr
  | .literal _ value => .literal none value
  | .reference _ name => .reference none name
  | .apply _ callee arguments => .apply none callee.unlocated (unlocatedAll arguments)
  | .branch _ test consequent alternate =>
      .branch none test.unlocated consequent.unlocated alternate.unlocated
  | .define _ name value => .define none name value.unlocated
  | .procedure _ name parameters body => .procedure none name parameters (unlocatedAll body)
  | .lambda _ parameters body => .lambda none parameters (unlocatedAll body)
  | .quote _ form => .quote none form.unlocated
  | .plain value => .plain value

def unlocatedAll : List Expr → List Expr
  | [] => []
  | expression :: rest => expression.unlocated :: unlocatedAll rest

end

theorem unlocated_all_eq_map (expressions : List Expr) :
    unlocatedAll expressions = expressions.map unlocated := by
  induction expressions with
  | nil => rfl
  | cons expression rest ih => rw [unlocatedAll, ih, List.map_cons]

/-- The lexeme of a literal; a list has none. -/
def literalLexemes : Datum → List Lexeme
  | .atom (.number value) => [.number value]
  | .atom (.string text) => [.string text]
  | .atom (.boolean value) => [.boolean value]
  | .atom .nil => [.nil]
  | _ => []

def listedLexemes (parameters : List String) : List Lexeme :=
  .openBracket :: (parameters.map .name ++ [.closeBracket])

mutual

def lexemes : Expr → List Lexeme
  | .literal _ value => literalLexemes value
  | .reference _ name => [.name name]
  | .apply _ callee arguments =>
      .openParen :: (callee.lexemes ++ (lexemesOf arguments ++ [.closeParen]))
  | .branch _ test consequent alternate =>
      .openParen :: .name "if" ::
        (test.lexemes ++ (consequent.lexemes ++ (alternate.lexemes ++ [.closeParen])))
  | .define _ name value =>
      .openParen :: .name "define" :: .name name :: (value.lexemes ++ [.closeParen])
  | .procedure _ name parameters body =>
      .openParen :: .name "define" :: .name name ::
        (listedLexemes parameters ++ (lexemesOf body ++ [.closeParen]))
  | .lambda _ parameters body =>
      .openParen :: .name "lambda" ::
        (listedLexemes parameters ++ (lexemesOf body ++ [.closeParen]))
  | .quote _ form => .openParen :: .name "quote" :: (form.lexemes ++ [.closeParen])
  | .plain _ => []

def lexemesOf : List Expr → List Lexeme
  | [] => []
  | expression :: rest => expression.lexemes ++ lexemesOf rest

end

end Expr

namespace Scanner

theorem separated_space (rest : List Char) : Separated (' ' :: rest) := by
  constructor <;> decide

theorem separated_close (rest : List Char) : Separated (')' :: rest) := by
  constructor <;> decide

theorem spells_space : Spells Anything [' '] [] :=
  spells_gap (by decide)

theorem spells_open : Spells Anything ['('] [.openParen] :=
  spells_bracket rfl (by decide) (by decide)

theorem spells_close : Spells Anything [')'] [.closeParen] :=
  spells_bracket rfl (by decide) (by decide)

theorem IsName.spells {name : String} (isName : IsName name) :
    Spells Separated name.toList [.name name] := by
  have spells := spells_name isName.text
  rwa [String.ofList_toList, isName.noKeyword] at spells

theorem Spells.spaced {text : List Char} {lexemes : List Lexeme}
    (spells : Spells Separated text lexemes) : Spells Anything (text ++ [' ']) lexemes := by
  have both := spells.append spells_space fun rest _ => separated_space rest
  rwa [List.append_nil] at both

theorem Spells.closed {text : List Char} {lexemes : List Lexeme}
    (spells : Spells Separated text lexemes) :
    Spells Separated (text ++ [')']) (lexemes ++ [.closeParen]) :=
  (spells.append spells_close fun rest _ => separated_close rest).weaken fun _ _ => trivial

theorem spells_opening (form : SpecialForm) :
    Spells Anything ("(" ++ form.keyword ++ " ").toList [.openParen, .name form.keyword] := by
  have isName : IsName form.keyword := by
    cases form <;> exact ⟨⟨by decide, List.all_eq_true.mp (by decide)⟩, rfl⟩
  have spells := spells_open.before isName.spells.spaced
  rw [String.toList_append, String.toList_append, List.append_assoc]
  exact spells

theorem spells_joined {texts : List String} {rows : List (List Lexeme)}
    (all : List.Forall₂ (fun text lexemes => Spells Separated text.toList lexemes) texts rows) :
    Spells Separated (Text.joined " " texts).toList rows.flatten := by
  induction all with
  | nil => exact .nil _
  | @cons text lexemes texts rows first rest ih =>
      cases texts with
      | nil =>
          cases rest
          rw [List.flatten_cons, List.flatten_nil, List.append_nil]
          exact first
      | cons second others =>
          rw [Text.joined, String.toList_append, String.toList_append, List.flatten_cons]
          · exact first.spaced.before ih
          · simp

theorem spells_parameters {parameters : List String}
    (names : ∀ parameter ∈ parameters, ReadsAsName parameter) :
    Spells Anything (Expr.parameterText parameters).toList (Expr.listedLexemes parameters) := by
  have all : List.Forall₂ (fun text lexemes => Spells Separated text.toList lexemes) parameters
      (parameters.map fun parameter => [.name parameter]) := by
    rw [List.forall₂_map_right_iff, List.forall₂_same]
    exact fun parameter member => (reads_as_name_iff.mp (names parameter member)).spells
  have opened : Spells Anything ['['] [.openBracket] := spells_bracket rfl (by decide) (by decide)
  have closed : Spells Anything [']'] [.closeBracket] := spells_bracket rfl (by decide) (by decide)
  have inner := (spells_joined all).append closed fun rest _ => by constructor <;> decide
  have flat : (parameters.map fun parameter => [Lexeme.name parameter]).flatten =
      parameters.map .name := by
    rw [← List.flatMap_def, ← List.map_eq_flatMap]
  rw [flat] at inner
  rw [Expr.parameterText, String.toList_append, String.toList_append, List.append_assoc]
  exact opened.before inner

end Scanner

section Printing

open Scanner

theorem literal_spells {location : Option Location} {value : Datum}
    (writable : (Expr.literal location value).Writable Double.ReadsBack) :
    ∃ text, (∀ room, value.describeWithin room = written room value.nesting text) ∧
      Spells Separated text.toList (Expr.literalLexemes value) := by
  cases value with
  | list items => exact writable.elim
  | atom atom =>
      cases atom with
      | number number =>
          cases number with
          | int value =>
              refine ⟨toString value, fun room => ?_, spells_integer writable.1 writable.2⟩
              simp only [Datum.describeWithin, Datum.nesting, written_here, Atom.describe,
                Number.text?, Number.integerText?, if_pos writable.2]
          | float value =>
              exact ⟨value.text, fun room => (written_here _).symm, spells_float writable⟩
          | nan serial => exact writable.elim
      | string text =>
          exact ⟨Atom.stringLiteral text, fun room => (written_here _).symm,
            (spells_string text).weaken fun _ _ => trivial⟩
      | unmatched => exact writable.elim
      | boolean value =>
          refine ⟨if value then "true" else "false", fun room => (written_here _).symm, ?_⟩
          have isWord : NameText (if value then "true" else "false").toList := by
            cases value <;> exact ⟨by decide, List.all_eq_true.mp (by decide)⟩
          have spells := spells_name isWord
          rw [String.ofList_toList] at spells
          cases value <;> exact spells
      | nil =>
          have isWord : NameText "nil".toList := ⟨by decide, List.all_eq_true.mp (by decide)⟩
          exact ⟨"nil", fun room => (written_here _).symm, spells_name isWord⟩

mutual

/-- A well-formed expression has a text, written where there is room for it, and the text
spells its lexemes. -/
theorem describe_spells (expression : Expr) (wellFormed : expression.WellFormed Double.ReadsBack) :
    ∃ text, (∀ room, expression.describeWithin room = written room expression.nesting text) ∧
      Spells Separated text.toList expression.lexemes := by
  have writable : expression.Writable Double.ReadsBack :=
    wellFormed expression expression.mem_nodes
  cases expression with
  | literal location value => exact literal_spells writable
  | reference location name =>
      exact ⟨name, fun room => (written_here _).symm, (reads_as_name_iff.mp writable).spells⟩
  | apply location callee arguments =>
      have inside (node : Expr) (member : node ∈ callee.nodes ++ Expr.nodesOf arguments) :=
        wellFormed node (List.mem_cons_of_mem _ member)
      obtain ⟨text, described, spells⟩ := describe_spells callee
        fun node member => inside node (List.mem_append_left _ member)
      obtain ⟨others, othersDescribed, othersSpell, follows⟩ := describe_body_spells arguments
        fun node member => inside node (List.mem_append_right _ member)
      refine ⟨"(" ++ text ++ others ++ ")", ?_, ?_⟩
      · intro room
        refine deeper_written _ _ fun room => ?_
        rw [described]
        refine written_bind _ _ _ ?_
        rw [othersDescribed]
        exact written_pure _ _
      · -- The callee is ended by the space of the first argument or by the parenthesis.
        have whole := spells_open.before (spells.append othersSpell.closed fun rest _ => ?_)
        · simp only [String.toList_append, List.append_assoc] at whole ⊢
          exact whole
        · rw [List.append_assoc]
          exact follows _ (separated_close rest)
  | branch location test consequent alternate =>
      have inside (node : Expr)
          (member : node ∈ test.nodes ++ consequent.nodes ++ alternate.nodes) :=
        wellFormed node (List.mem_cons_of_mem _ member)
      obtain ⟨testText, testDescribed, testSpells⟩ := describe_spells test fun node member =>
        inside node (List.mem_append_left _ (List.mem_append_left _ member))
      obtain ⟨thenText, thenDescribed, thenSpells⟩ := describe_spells consequent
        fun node member => inside node (List.mem_append_left _ (List.mem_append_right _ member))
      obtain ⟨elseText, elseDescribed, elseSpells⟩ := describe_spells alternate
        fun node member => inside node (List.mem_append_right _ member)
      refine ⟨"(if " ++ testText ++ " " ++ thenText ++ " " ++ elseText ++ ")", ?_, ?_⟩
      · intro room
        refine deeper_written _ _ fun room => ?_
        rw [testDescribed]
        refine written_bind _ _ _ ?_
        rw [thenDescribed]
        refine written_bind _ _ _ ?_
        rw [elseDescribed]
        exact written_pure _ _
      · have whole := (spells_opening .branch).before
          (testSpells.spaced.before (thenSpells.spaced.before elseSpells.closed))
        simp only [String.toList_append, List.append_assoc] at whole ⊢
        exact whole
  | define location name value =>
      obtain ⟨text, described, spells⟩ := describe_spells value
        fun node member => wellFormed node (List.mem_cons_of_mem _ member)
      refine ⟨"(define " ++ name ++ " " ++ text ++ ")", ?_, ?_⟩
      · intro room
        refine deeper_written _ _ fun room => ?_
        rw [described]
        exact written_pure _ _
      · have whole := (spells_opening .define).before
          ((reads_as_name_iff.mp writable).spells.spaced.before spells.closed)
        simp only [String.toList_append, List.append_assoc] at whole ⊢
        exact whole
  | procedure location name parameters body =>
      obtain ⟨text, described, spells, -⟩ := describe_body_spells body
        fun node member => wellFormed node (List.mem_cons_of_mem _ member)
      refine ⟨"(define " ++ name ++ " " ++ Expr.parameterText parameters ++ text ++ ")", ?_, ?_⟩
      · intro room
        refine deeper_written _ _ fun room => ?_
        rw [described]
        exact written_pure _ _
      · have whole := (spells_opening .define).before
          ((reads_as_name_iff.mp writable.1).spells.spaced.before
            ((spells_parameters writable.2).before spells.closed))
        simp only [String.toList_append, List.append_assoc] at whole ⊢
        exact whole
  | lambda location parameters body =>
      obtain ⟨text, described, spells, -⟩ := describe_body_spells body
        fun node member => wellFormed node (List.mem_cons_of_mem _ member)
      refine ⟨"(lambda " ++ Expr.parameterText parameters ++ text ++ ")", ?_, ?_⟩
      · intro room
        refine deeper_written _ _ fun room => ?_
        rw [described]
        exact written_pure _ _
      · have whole := (spells_opening .lambda).before
          ((spells_parameters writable).before spells.closed)
        simp only [String.toList_append, List.append_assoc] at whole ⊢
        exact whole
  | quote location form =>
      obtain ⟨text, described, spells⟩ := describe_spells form
        fun node member => wellFormed node (List.mem_cons_of_mem _ member)
      refine ⟨"(quote " ++ text ++ ")", ?_, ?_⟩
      · intro room
        refine deeper_written _ _ fun room => ?_
        rw [described]
        exact written_pure _ _
      · have whole := (spells_opening .quote).before spells.closed
        simp only [String.toList_append, List.append_assoc] at whole ⊢
        exact whole
  | plain value => exact writable.elim

theorem describe_body_spells (expressions : List Expr)
    (wellFormed : ∀ node ∈ Expr.nodesOf expressions, node.Writable Double.ReadsBack) :
    ∃ text, (∀ room, Expr.describeBodyWithin room expressions =
        written room (Expr.nestingOf expressions) text) ∧
      Spells Separated text.toList (Expr.lexemesOf expressions) ∧
      ∀ rest, Separated rest → Separated (text.toList ++ rest) := by
  cases expressions with
  | nil => exact ⟨"", fun room => (written_here _).symm, .nil _, fun _ separated => separated⟩
  | cons expression rest =>
      obtain ⟨text, described, spells⟩ := describe_spells expression
        fun node member => wellFormed node (List.mem_append_left _ member)
      obtain ⟨others, othersDescribed, othersSpell, follows⟩ := describe_body_spells rest
        fun node member => wellFormed node (List.mem_append_right _ member)
      refine ⟨" " ++ text ++ others, ?_, ?_, ?_⟩
      · intro room
        rw [Expr.describeBodyWithin, described]
        refine written_bind _ _ _ ?_
        rw [othersDescribed]
        exact written_pure _ _
      · rw [String.toList_append, String.toList_append, List.append_assoc]
        exact spells_space.before (spells.append othersSpell follows)
      · intro more _
        rw [String.toList_append, String.toList_append]
        exact separated_space _

end

/-- The texts of well-formed trees spell the lexemes of the trees, one by one. -/
theorem describe_all_spells {trees : List Expr}
    (wellFormed : ∀ tree ∈ trees, tree.WellFormed Double.ReadsBack) :
    ∃ texts, (∀ room, trees.mapM (Expr.describeWithin room) =
        written room (Expr.nestingOf trees) texts) ∧
      List.Forall₂ (fun text lexemes => Spells Separated text.toList lexemes) texts
        (trees.map Expr.lexemes) := by
  induction trees with
  | nil => exact ⟨[], fun room => (written_here _).symm, .nil⟩
  | cons tree trees ih =>
      obtain ⟨here, later⟩ := List.forall_mem_cons.mp wellFormed
      obtain ⟨text, described, spells⟩ := describe_spells tree here
      obtain ⟨texts, allDescribed, allSpell⟩ := ih later
      refine ⟨text :: texts, fun room => ?_, .cons spells allSpell⟩
      rw [List.mapM_cons, described]
      refine written_bind _ _ _ ?_
      rw [allDescribed]
      exact written_pure _ _

end Printing

end Lisplet
