import Lisplet.Proofs.NestedParsing
import Lisplet.Proofs.Printing

/-!
# Printing and parsing

Parsing the printed text of well-formed trees gives the trees back, and parsing gives
nothing but well-formed trees, floats apart. Printed text spells the lexemes of a tree;
here tokens with these lexemes are shown to make up a phrase of that tree.
-/

namespace Lisplet

section Reading

def Carries (tokens : List Token) (lexemes : List Lexeme) : Prop :=
  tokens.map Token.lexeme = lexemes

theorem Carries.cons {tokens : List Token} {lexeme : Lexeme} {lexemes : List Lexeme}
    (carries : Carries tokens (lexeme :: lexemes)) :
    ∃ mark rest, tokens = Mark.token mark lexeme :: rest ∧ Carries rest lexemes := by
  obtain ⟨token, rest, rfl, spelled, others⟩ := List.map_eq_cons_iff.mp carries
  obtain ⟨mark, rfl⟩ := Token.exists_mark spelled
  exact ⟨mark, rest, rfl, others⟩

theorem Carries.single {tokens : List Token} {lexeme : Lexeme} (carries : Carries tokens [lexeme]) :
    ∃ mark, tokens = [Mark.token mark lexeme] := by
  obtain ⟨mark, rest, rfl, others⟩ := carries.cons
  rw [List.map_eq_nil_iff.mp others]
  exact ⟨mark, rfl⟩

theorem Carries.append {tokens : List Token} {lexemes others : List Lexeme}
    (carries : Carries tokens (lexemes ++ others)) :
    ∃ early late, tokens = early ++ late ∧ Carries early lexemes ∧ Carries late others :=
  List.map_eq_append_iff.mp carries

theorem Carries.opened {tokens : List Token} {lexeme : Lexeme} {lexemes : List Lexeme}
    (carries : Carries tokens (.openParen :: lexeme :: lexemes)) :
    ∃ opening mark rest,
      tokens = Mark.token opening .openParen :: Mark.token mark lexeme :: rest ∧
        Carries rest lexemes := by
  obtain ⟨opening, behind, rfl, inside⟩ := carries.cons
  obtain ⟨mark, rest, rfl, others⟩ := inside.cons
  exact ⟨opening, mark, rest, rfl, others⟩

theorem Carries.closed {tokens : List Token} {lexemes : List Lexeme}
    (carries : Carries tokens (lexemes ++ [.closeParen])) :
    ∃ inner closing, tokens = inner ++ [Mark.token closing .closeParen] ∧
      Carries inner lexemes := by
  obtain ⟨inner, last, rfl, inside, ended⟩ := carries.append
  obtain ⟨closing, rfl⟩ := ended.single
  exact ⟨inner, closing, rfl, inside⟩

theorem Carries.labels {tokens : List Token} {names : List String}
    (carries : Carries tokens (names.map .name)) :
    ∃ labels : List Label, tokens = labels.map Label.token ∧ labels.map Label.text = names := by
  induction names generalizing tokens with
  | nil => exact ⟨[], List.map_eq_nil_iff.mp carries, rfl⟩
  | cons name names ih =>
      obtain ⟨mark, rest, rfl, others⟩ := carries.cons
      obtain ⟨labels, rfl, texts⟩ := ih others
      refine ⟨⟨mark, name⟩ :: labels, rfl, ?_⟩
      rw [List.map_cons, texts]

theorem Carries.listed {tokens : List Token} {parameters : List String}
    (carries : Carries tokens (Expr.listedLexemes parameters)) :
    ∃ bracket labels bracketEnd, tokens = Phrase.listed bracket labels bracketEnd ∧
      labels.map Label.text = parameters := by
  obtain ⟨bracket, rest, rfl, inside⟩ := carries.cons
  obtain ⟨names, last, rfl, named, ended⟩ := inside.append
  obtain ⟨labels, rfl, texts⟩ := named.labels
  obtain ⟨bracketEnd, rfl⟩ := ended.single
  exact ⟨bracket, labels, bracketEnd, rfl, texts⟩

theorem reference_of_head {expression : Expr} {name : String}
    (begins : expression.lexemes.head? = some (.name name)) :
    ∃ location, expression = .reference location name := by
  cases expression with
  | reference location other =>
      cases begins
      exact ⟨location, rfl⟩
  | literal location value =>
      rw [Expr.lexemes] at begins
      unfold Expr.literalLexemes at begins
      split at begins <;> cases begins
  | _ => cases begins

theorem literal_phrase {location : Option Location} {value : Datum} {floats : Double → Prop}
    (writable : (Expr.literal location value).Writable floats) {tokens : List Token}
    (carries : Carries tokens (Expr.literalLexemes value)) :
    ∃ phrase : Phrase, phrase.tokens = tokens ∧ phrase.Proper ∧
      phrase.tree.unlocated = .literal none value := by
  cases value with
  | list items => exact writable.elim
  | atom atom =>
      cases atom with
      | number value =>
          obtain ⟨mark, rfl⟩ := carries.single
          exact ⟨.number mark value, rfl, trivial, rfl⟩
      | string text =>
          obtain ⟨mark, rfl⟩ := carries.single
          exact ⟨.string mark text, rfl, trivial, rfl⟩
      | unmatched => exact writable.elim
      | boolean value =>
          obtain ⟨mark, rfl⟩ := carries.single
          exact ⟨.boolean mark value, rfl, trivial, rfl⟩
      | nil =>
          obtain ⟨mark, rfl⟩ := carries.single
          exact ⟨.nil mark, rfl, trivial, rfl⟩

mutual

/-- Tokens with the lexemes of a well-formed tree make up a phrase of that tree. -/
theorem phrase_of_lexemes {floats : Double → Prop} (expression : Expr)
    (wellFormed : expression.WellFormed floats) {tokens : List Token}
    (carries : Carries tokens expression.lexemes) :
    ∃ phrase : Phrase, phrase.tokens = tokens ∧ phrase.Proper ∧
      phrase.tree.unlocated = expression.unlocated := by
  have writable : expression.Writable floats := wellFormed expression expression.mem_nodes
  cases expression with
  | literal location value => exact literal_phrase writable carries
  | reference location name =>
      obtain ⟨mark, rfl⟩ := carries.single
      exact ⟨.reference ⟨mark, name⟩, rfl, trivial, rfl⟩
  | apply location callee arguments =>
      have inside (node : Expr) (member : node ∈ callee.nodes ++ Expr.nodesOf arguments) :=
        wellFormed node (List.mem_cons_of_mem _ member)
      obtain ⟨opening, behind, rfl, called⟩ := carries.cons
      obtain ⟨first, given, rfl, firstCarries, givenCarries⟩ := called.append
      obtain ⟨others, closing, rfl, othersCarry⟩ := givenCarries.closed
      obtain ⟨phrase, rfl, proper, tree⟩ := phrase_of_lexemes callee
        (fun node member => inside node (List.mem_append_left _ member)) firstCarries
      obtain ⟨phrases, rfl, allProper, trees⟩ := phrases_of_lexemes arguments
        (fun node member => inside node (List.mem_append_right _ member)) othersCarry
      refine ⟨.apply opening phrase phrases closing, rfl, ⟨?_, proper, allProper⟩, ?_⟩
      · -- A callee that begins with a keyword would be a reference to it.
        rintro token begins ⟨form, keyword⟩
        have named : callee.lexemes.head? = some (.name form.keyword) := by
          rw [← firstCarries, List.head?_map, Option.mem_def.mp begins, ← keyword]
          rfl
        obtain ⟨place, isReference⟩ := reference_of_head named
        exact writable place form isReference
      · rw [Phrase.tree, Expr.unlocated, Expr.unlocated, tree, trees]
  | branch location test consequent alternate =>
      have inside (node : Expr)
          (member : node ∈ test.nodes ++ consequent.nodes ++ alternate.nodes) :=
        wellFormed node (List.mem_cons_of_mem _ member)
      obtain ⟨opening, keyword, behind, rfl, choice⟩ := carries.opened
      obtain ⟨testTokens, branches, rfl, testCarries, branchesCarry⟩ := choice.append
      obtain ⟨thenTokens, ending, rfl, thenCarries, endingCarries⟩ := branchesCarry.append
      obtain ⟨elseTokens, closing, rfl, elseCarries⟩ := endingCarries.closed
      obtain ⟨testPhrase, rfl, testProper, testTree⟩ := phrase_of_lexemes test
        (fun node member => inside node
          (List.mem_append_left _ (List.mem_append_left _ member))) testCarries
      obtain ⟨thenPhrase, rfl, thenProper, thenTree⟩ := phrase_of_lexemes consequent
        (fun node member => inside node
          (List.mem_append_left _ (List.mem_append_right _ member))) thenCarries
      obtain ⟨elsePhrase, rfl, elseProper, elseTree⟩ := phrase_of_lexemes alternate
        (fun node member => inside node (List.mem_append_right _ member)) elseCarries
      refine ⟨.branch opening keyword testPhrase thenPhrase elsePhrase closing, rfl,
        ⟨testProper, thenProper, elseProper⟩, ?_⟩
      rw [Phrase.tree, Expr.unlocated, Expr.unlocated, testTree, thenTree, elseTree]
  | define location name value =>
      obtain ⟨opening, keyword, behind, rfl, definition⟩ := carries.opened
      obtain ⟨mark, ending, rfl, endingCarries⟩ := definition.cons
      obtain ⟨valueTokens, closing, rfl, valueCarries⟩ := endingCarries.closed
      obtain ⟨phrase, rfl, proper, tree⟩ := phrase_of_lexemes value
        (fun node member => wellFormed node (List.mem_cons_of_mem _ member)) valueCarries
      refine ⟨.define opening keyword ⟨mark, name⟩ phrase closing, rfl, proper, ?_⟩
      rw [Phrase.tree, Expr.unlocated, Expr.unlocated, tree]
  | procedure location name parameters body =>
      obtain ⟨opening, keyword, behind, rfl, definition⟩ := carries.opened
      obtain ⟨mark, procedure, rfl, procedureCarries⟩ := definition.cons
      obtain ⟨listed, ending, rfl, listedCarries, endingCarries⟩ := procedureCarries.append
      obtain ⟨bodyTokens, closing, rfl, bodyCarries⟩ := endingCarries.closed
      obtain ⟨bracket, labels, bracketEnd, rfl, texts⟩ := listedCarries.listed
      obtain ⟨phrases, rfl, allProper, trees⟩ := phrases_of_lexemes body
        (fun node member => wellFormed node (List.mem_cons_of_mem _ member)) bodyCarries
      refine ⟨.procedure opening keyword ⟨mark, name⟩ bracket labels bracketEnd phrases closing,
        rfl, allProper, ?_⟩
      rw [Phrase.tree, Expr.unlocated, Expr.unlocated, trees, texts]
  | lambda location parameters body =>
      obtain ⟨opening, keyword, procedure, rfl, procedureCarries⟩ := carries.opened
      obtain ⟨listed, ending, rfl, listedCarries, endingCarries⟩ := procedureCarries.append
      obtain ⟨bodyTokens, closing, rfl, bodyCarries⟩ := endingCarries.closed
      obtain ⟨bracket, labels, bracketEnd, rfl, texts⟩ := listedCarries.listed
      obtain ⟨phrases, rfl, allProper, trees⟩ := phrases_of_lexemes body
        (fun node member => wellFormed node (List.mem_cons_of_mem _ member)) bodyCarries
      refine ⟨.lambda opening keyword bracket labels bracketEnd phrases closing, rfl,
        allProper, ?_⟩
      rw [Phrase.tree, Expr.unlocated, Expr.unlocated, trees, texts]
  | quote location form =>
      obtain ⟨opening, keyword, quoted, rfl, quotedCarries⟩ := carries.opened
      obtain ⟨formTokens, closing, rfl, formCarries⟩ := quotedCarries.closed
      obtain ⟨phrase, rfl, proper, tree⟩ := phrase_of_lexemes form
        (fun node member => wellFormed node (List.mem_cons_of_mem _ member)) formCarries
      refine ⟨.quote opening keyword phrase closing, rfl, proper, ?_⟩
      rw [Phrase.tree, Expr.unlocated, Expr.unlocated, tree]
  | plain value => exact writable.elim

theorem phrases_of_lexemes {floats : Double → Prop} (expressions : List Expr)
    (wellFormed : ∀ node ∈ Expr.nodesOf expressions, node.Writable floats) {tokens : List Token}
    (carries : Carries tokens (Expr.lexemesOf expressions)) :
    ∃ phrases : List Phrase, Phrase.tokensOf phrases = tokens ∧ Phrase.AllProper phrases ∧
      Expr.unlocatedAll (Phrase.treesOf phrases) = Expr.unlocatedAll expressions := by
  cases expressions with
  | nil => exact ⟨[], (List.map_eq_nil_iff.mp carries).symm, trivial, rfl⟩
  | cons expression rest =>
      obtain ⟨first, others, rfl, firstCarries, othersCarry⟩ := carries.append
      obtain ⟨phrase, rfl, proper, tree⟩ := phrase_of_lexemes expression
        (fun node member => wellFormed node (List.mem_append_left _ member)) firstCarries
      obtain ⟨phrases, rfl, allProper, trees⟩ := phrases_of_lexemes rest
        (fun node member => wellFormed node (List.mem_append_right _ member)) othersCarry
      refine ⟨phrase :: phrases, rfl, ⟨proper, allProper⟩, ?_⟩
      rw [Phrase.treesOf, Expr.unlocatedAll, Expr.unlocatedAll, tree, trees]

end

end Reading

section Parsed

/-- Tokens such as a scanner makes. -/
def AllReadable (tokens : List Token) : Prop :=
  ∀ token ∈ tokens, Scanner.IsReadable token.lexeme

theorem Label.reads_as_name {label : Label} (readable : Scanner.IsReadable label.token.lexeme) :
    ReadsAsName label.text :=
  reads_as_name_iff.mpr readable

theorem listed_names {bracket bracketEnd : Mark} {labels : List Label}
    (readable : AllReadable (Phrase.listed bracket labels bracketEnd)) :
    ∀ parameter ∈ labels.map Label.text, ReadsAsName parameter := by
  intro parameter member
  obtain ⟨label, inside, rfl⟩ := List.mem_map.mp member
  refine Label.reads_as_name (readable label.token ?_)
  exact List.mem_cons_of_mem _ (List.mem_append_left _ (List.mem_map_of_mem inside))

theorem number_writable {value : Number} (location : Option Location)
    (numeral : Scanner.IsNumeral value) :
    (Expr.literal location (.atom (.number value))).Writable fun _ => True := by
  cases value with
  | int value => exact numeral
  | float value => trivial
  | nan serial => exact numeral.elim

theorem callee_writable {callee : Phrase} (opening : Option Location) (arguments : List Expr)
    (ordinary : ∀ first ∈ callee.tokens.head?, ¬first.IsKeyword) :
    (Expr.apply opening callee.tree arguments).Writable fun _ => True := by
  intro location form same
  cases callee with
  | reference label =>
      have keyword : label.text = form.keyword := (Expr.reference.inj same).2
      exact ordinary _ rfl ⟨form, congrArg Lexeme.name keyword⟩
  | _ => cases same

mutual

/-- The tree of a proper phrase of readable tokens is well formed, floats apart. -/
theorem tree_well_formed (phrase : Phrase) (proper : phrase.Proper)
    (readable : AllReadable phrase.tokens) : phrase.tree.WellFormed fun _ => True := by
  cases phrase with
  | reference label =>
      refine List.forall_mem_singleton.mpr ?_
      exact Label.reads_as_name (readable _ (List.mem_singleton.mpr rfl))
  | number mark value =>
      refine List.forall_mem_singleton.mpr ?_
      exact number_writable _ (readable _ (List.mem_singleton.mpr rfl))
  | string mark text => exact List.forall_mem_singleton.mpr trivial
  | boolean mark value => exact List.forall_mem_singleton.mpr trivial
  | nil mark => exact List.forall_mem_singleton.mpr trivial
  | define opening keyword name value closing =>
      obtain ⟨-, -, named, inside⟩ : _ ∧ _ ∧ _ ∧ AllReadable _ := by
        simpa only [AllReadable, Phrase.tokens, List.forall_mem_cons] using readable
      obtain ⟨valueReadable, -⟩ := List.forall_mem_append.mp inside
      exact List.forall_mem_cons.mpr
        ⟨Label.reads_as_name named, tree_well_formed value proper valueReadable⟩
  | procedure opening keyword name bracket parameters bracketEnd body closing =>
      obtain ⟨-, -, named, inside⟩ : _ ∧ _ ∧ _ ∧ AllReadable _ := by
        simpa only [AllReadable, Phrase.tokens, List.forall_mem_cons] using readable
      obtain ⟨listedReadable, ending⟩ := List.forall_mem_append.mp inside
      obtain ⟨bodyReadable, -⟩ := List.forall_mem_append.mp ending
      exact List.forall_mem_cons.mpr ⟨⟨Label.reads_as_name named, listed_names listedReadable⟩,
        trees_well_formed body proper bodyReadable⟩
  | branch opening keyword test consequent alternate closing =>
      obtain ⟨-, -, inside⟩ : _ ∧ _ ∧ AllReadable _ := by
        simpa only [AllReadable, Phrase.tokens, List.forall_mem_cons] using readable
      obtain ⟨testReadable, branches⟩ := List.forall_mem_append.mp inside
      obtain ⟨thenReadable, ending⟩ := List.forall_mem_append.mp branches
      obtain ⟨elseReadable, -⟩ := List.forall_mem_append.mp ending
      obtain ⟨testProper, thenProper, elseProper⟩ := proper
      refine List.forall_mem_cons.mpr ⟨trivial, ?_⟩
      exact List.forall_mem_append.mpr ⟨List.forall_mem_append.mpr
        ⟨tree_well_formed test testProper testReadable,
          tree_well_formed consequent thenProper thenReadable⟩,
        tree_well_formed alternate elseProper elseReadable⟩
  | quote opening keyword form closing =>
      obtain ⟨-, -, inside⟩ : _ ∧ _ ∧ AllReadable _ := by
        simpa only [AllReadable, Phrase.tokens, List.forall_mem_cons] using readable
      obtain ⟨formReadable, -⟩ := List.forall_mem_append.mp inside
      exact List.forall_mem_cons.mpr ⟨trivial, tree_well_formed form proper formReadable⟩
  | lambda opening keyword bracket parameters bracketEnd body closing =>
      obtain ⟨-, -, inside⟩ : _ ∧ _ ∧ AllReadable _ := by
        simpa only [AllReadable, Phrase.tokens, List.forall_mem_cons] using readable
      obtain ⟨listedReadable, ending⟩ := List.forall_mem_append.mp inside
      obtain ⟨bodyReadable, -⟩ := List.forall_mem_append.mp ending
      exact List.forall_mem_cons.mpr
        ⟨listed_names listedReadable, trees_well_formed body proper bodyReadable⟩
  | apply opening callee arguments closing =>
      obtain ⟨-, inside⟩ : _ ∧ AllReadable _ := by
        simpa only [AllReadable, Phrase.tokens, List.forall_mem_cons] using readable
      obtain ⟨calleeReadable, ending⟩ := List.forall_mem_append.mp inside
      obtain ⟨argumentsReadable, -⟩ := List.forall_mem_append.mp ending
      obtain ⟨ordinary, calleeProper, argumentsProper⟩ := proper
      refine List.forall_mem_cons.mpr ⟨callee_writable _ _ ordinary, ?_⟩
      exact List.forall_mem_append.mpr ⟨tree_well_formed callee calleeProper calleeReadable,
        trees_well_formed arguments argumentsProper argumentsReadable⟩

theorem trees_well_formed (phrases : List Phrase) (proper : Phrase.AllProper phrases)
    (readable : AllReadable (Phrase.tokensOf phrases)) :
    ∀ node ∈ Expr.nodesOf (Phrase.treesOf phrases), node.Writable fun _ => True := by
  cases phrases with
  | nil => exact fun _ member => by cases member
  | cons phrase rest =>
      obtain ⟨firstReadable, restReadable⟩ := List.forall_mem_append.mp readable
      exact List.forall_mem_append.mpr ⟨tree_well_formed phrase proper.1 firstReadable,
        trees_well_formed rest proper.2 restReadable⟩

end

end Parsed

section Sources

variable {limit : Nat} {source : String}

theorem parse_of_tokens {tokens : List Token} (scanned : tokenize source = .ok tokens) :
    parseWithin limit source = (parseTokens limit tokens).mapError .parse := by
  simp only [parseWithin, scanned]

theorem tokens_of_parse {trees : List Expr} (parsed : parseWithin limit source = .ok trees) :
    ∃ tokens, tokenize source = .ok tokens ∧ parseTokens limit tokens = .ok trees := by
  cases scanned : tokenize source with
  | error error =>
      simp only [parseWithin, scanned] at parsed
      cases parsed
  | ok tokens =>
      rw [parse_of_tokens scanned] at parsed
      cases accepted : parseTokens limit tokens with
      | error failure =>
          rw [accepted] at parsed
          cases parsed
      | ok program =>
          rw [accepted] at parsed
          cases parsed
          exact ⟨tokens, rfl, accepted⟩

end Sources

theorem lexemes_of_eq_flatten (trees : List Expr) :
    Expr.lexemesOf trees = (trees.map Expr.lexemes).flatten := by
  induction trees with
  | nil => rfl
  | cons tree trees ih => rw [Expr.lexemesOf, List.map_cons, List.flatten_cons, ih]

namespace Expr

mutual

theorem nesting_unlocated (expression : Expr) :
    expression.unlocated.nesting = expression.nesting := by
  cases expression with
  | apply location callee arguments =>
      simp only [unlocated, nesting, nesting_unlocated callee, nesting_unlocated_all arguments]
  | branch location test consequent alternate =>
      simp only [unlocated, nesting, nesting_unlocated test, nesting_unlocated consequent,
        nesting_unlocated alternate]
  | define location name value => simp only [unlocated, nesting, nesting_unlocated value]
  | procedure location name parameters body =>
      simp only [unlocated, nesting, nesting_unlocated_all body]
  | lambda location parameters body => simp only [unlocated, nesting, nesting_unlocated_all body]
  | quote location form => simp only [unlocated, nesting, nesting_unlocated form]
  | literal | reference | plain => rfl

theorem nesting_unlocated_all (expressions : List Expr) :
    nestingOf (unlocatedAll expressions) = nestingOf expressions := by
  cases expressions with
  | nil => rfl
  | cons expression rest =>
      simp only [unlocatedAll, nestingOf, nesting_unlocated expression, nesting_unlocated_all rest]

end

end Expr

/-- The texts of well-formed trees, joined by spaces, are parsed to the same trees, if the
limit leaves room for them. -/
theorem parse_joined_texts {trees : List Expr} {texts : List String}
    (wellFormed : ∀ tree ∈ trees, tree.WellFormed Double.ReadsBack)
    (spells : List.Forall₂ (fun text lexemes => Scanner.Spells Scanner.Separated text.toList lexemes)
      texts (trees.map Expr.lexemes)) :
    ∃ found, found.map Expr.unlocated = trees.map Expr.unlocated ∧
      ∀ limit, parseWithin limit (Text.joined " " texts) =
        if Expr.nestingOf trees ≤ limit then .ok found else .error (.parse .tooDeep) := by
  obtain ⟨tokens, scanned, carries⟩ := (Scanner.spells_joined spells).tokenize
  rw [← lexemes_of_eq_flatten] at carries
  have allWritable : ∀ node ∈ Expr.nodesOf trees, node.Writable Double.ReadsBack := by
    intro node member
    obtain ⟨tree, present, inside⟩ := Expr.mem_nodes_of.mp member
    exact wellFormed tree present node inside
  obtain ⟨phrases, spelled, proper, same⟩ := phrases_of_lexemes trees allWritable carries
  have levels : Expr.nestingOf (Phrase.treesOf phrases) = Expr.nestingOf trees := by
    rw [← Expr.nesting_unlocated_all, same, Expr.nesting_unlocated_all]
  refine ⟨Phrase.treesOf phrases, ?_, fun limit => ?_⟩
  · rwa [Expr.unlocated_all_eq_map, Expr.unlocated_all_eq_map] at same
  · rw [parse_of_tokens scanned, parse_tokens_of_derives ⟨proper, spelled, rfl⟩, levels]
    split <;> rfl

/-- Well-formed trees have texts, which are written if there is room for the nesting of the
trees. Parsing these texts, joined by spaces, gives the trees back, locations apart, if the
limit allows their nesting, and otherwise fails because they nest too deep. And parsing gives
only well-formed trees, with any floats, nested no deeper than the limit. -/
theorem parsing_inverts_printing (limit : Nat) (source : String) :
    (∀ trees : List Expr, (∀ tree ∈ trees, tree.WellFormed Double.ReadsBack) →
      ∃ texts found, found.map Expr.unlocated = trees.map Expr.unlocated ∧
        (∀ room,
          ((∀ tree ∈ trees, tree.nesting ≤ room) →
            trees.mapM (Expr.describeWithin room) = .ok texts) ∧
          ((∃ tree ∈ trees, room < tree.nesting) →
            trees.mapM (Expr.describeWithin room) = .error .tooDeep)) ∧
        ((∀ tree ∈ trees, tree.nesting ≤ limit) →
          parseWithin limit (Text.joined " " texts) = .ok found) ∧
        ((∃ tree ∈ trees, limit < tree.nesting) →
          parseWithin limit (Text.joined " " texts) = .error (.parse .tooDeep))) ∧
    ∀ trees, parseWithin limit source = .ok trees →
      ∀ tree ∈ trees, tree.WellFormed (fun _ => True) ∧ tree.nesting ≤ limit := by
  constructor
  · intro trees wellFormed
    obtain ⟨texts, described, spells⟩ := describe_all_spells wellFormed
    obtain ⟨found, same, parsed⟩ := parse_joined_texts wellFormed spells
    refine ⟨texts, found, same, fun room => ⟨fun fits => ?_, fun deep => ?_⟩, fun fits => ?_,
      fun deep => ?_⟩
    · rw [described, written, if_pos (Expr.nesting_of_le.mpr fits)]
    · rw [described, written, if_neg (Expr.not_nesting_of_le.mpr deep)]
    · rw [parsed, if_pos (Expr.nesting_of_le.mpr fits)]
    · rw [parsed, if_neg (Expr.not_nesting_of_le.mpr deep)]
  · intro trees parsed tree member
    obtain ⟨tokens, scanned, accepted⟩ := tokens_of_parse parsed
    refine ⟨fun node inside => ?_,
      Expr.nesting_of_le.mp (nesting_of_parse_tokens accepted) tree member⟩
    obtain ⟨phrases, proper, rfl, rfl⟩ := derives_of_parse_tokens accepted
    exact trees_well_formed phrases proper (tokenize_readable scanned) node
      (Expr.mem_nodes_of.mpr ⟨tree, member, inside⟩)

/-- Applications of applications, each without arguments. -/
def applicationTower : Nat → Expr
  | 0 => .reference none "f"
  | count + 1 => .apply none (applicationTower count) []

theorem tower_nesting (count : Nat) : (applicationTower count).nesting = count := by
  induction count with
  | zero => rfl
  | succ count ih => simp [applicationTower, Expr.nesting, Expr.nestingOf, ih]

theorem tower_well_formed (count : Nat) :
    (applicationTower count).WellFormed Double.ReadsBack := by
  induction count with
  | zero =>
      refine List.forall_mem_singleton.mpr ?_
      exact reads_as_name_iff.mpr ⟨⟨by decide, List.all_eq_true.mp (by decide)⟩, rfl⟩
  | succ count ih =>
      refine List.forall_mem_cons.mpr ⟨?_, List.forall_mem_append.mpr ⟨ih, by simp [Expr.nodesOf]⟩⟩
      intro location form same
      cases count with
      | zero => cases form <;> simp [applicationTower, SpecialForm.keyword] at same
      | succ count => cases same

/-- A parenthesis on each side of `f` for every level. -/
def towerText (count : Nat) : String :=
  String.ofList (List.replicate count '(' ++ 'f' :: List.replicate count ')')

theorem tower_text_succ (count : Nat) :
    "(" ++ towerText count ++ "" ++ ")" = towerText (count + 1) := by
  apply String.toList_inj.mp
  simp [towerText, List.replicate_succ, ← List.replicate_succ']

theorem tower_described (count room : Nat) :
    (applicationTower count).describeWithin room = written room count (towerText count) := by
  induction count generalizing room with
  | zero => exact (written_here _).symm
  | succ count ih =>
      refine deeper_written _ _ fun room => ?_
      rw [ih, ← tower_text_succ]
      exact written_pure (towerText count) fun text => "(" ++ text ++ "" ++ ")"

theorem parse_tower_text {count limit : Nat} (deep : limit < count) :
    parseWithin limit (towerText count) = .error (.parse .tooDeep) := by
  obtain ⟨text, described, spells⟩ := describe_spells _ (tower_well_formed count)
  have same : text = towerText count := by
    have both := (described count).symm.trans (tower_described count count)
    rw [tower_nesting, written, written, if_pos (Nat.le_refl count),
      if_pos (Nat.le_refl count)] at both
    exact Except.ok.inj both
  subst same
  have alone : Expr.nestingOf [applicationTower count] = count := by
    rw [Expr.nestingOf, Expr.nestingOf, tower_nesting, Nat.max_zero]
  obtain ⟨found, -, parsed⟩ := parse_joined_texts
    (List.forall_mem_singleton.mpr (tower_well_formed count)) (.cons spells .nil)
  rw [alone] at parsed
  exact (parsed limit).trans (if_neg (Nat.not_le.mpr deep))

/-- Sixty thousand forms inside each other are well-formed and have a text, but they are not
written, and their text is not parsed. -/
theorem deep_tower_neither_printed_nor_parsed :
    (applicationTower 60000).WellFormed Double.ReadsBack ∧
      (applicationTower 60000).describeWithin 60000 = .ok (towerText 60000) ∧
      (applicationTower 60000).describe = .error .tooDeep ∧
      parse (towerText 60000) = .error (.parse .tooDeep) := by
  have deep : nestingLimit < 60000 := by decide
  refine ⟨tower_well_formed 60000, ?_, ?_, parse_tower_text deep⟩
  · rw [tower_described, written, if_pos (Nat.le_refl 60000)]
  · rw [Expr.describe, tower_described, written, if_neg (Nat.not_le.mpr deep)]

end Lisplet
