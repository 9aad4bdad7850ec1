import RuleAtlas.Proofs.Query.Accepted.Trees
import RuleAtlas.Proofs.Query.Refinement
import RuleAtlas.Proofs.Query.Rereading.Trees

/-! # Rendered expressions parse back

The text of a tree that some input stands for stands for that tree itself.  What the parse of
the input has made sure of is `Readable`; a readable tree is written as its tokens, and these
are read as the tree. -/

namespace RuleAtlas.Query

open Parse

variable {levels : Nat} {tree : Expr}

theorem isEof_of_readLevels {least : Nat} {tokens rest : List Token}
    (came : readLevels levels least tokens = (.ok tree, rest)) : (first tokens).isEof = false := by
  by_contra atEnd
  have eof : (first tokens).kind = .eof := by simpa [Token.isEof] using atEnd
  -- The end is no sign and begins no primary expression.
  cases levels with
  | zero => cases came
  | succ levels =>
    rw [readLevels, readOperands, bind_eq_ok] at came
    obtain ⟨left, middle, operand, -⟩ := came
    rw [readUnary, peek_bind, eof] at operand
    dsimp only [unaryOp?] at operand
    rw [bind_eq_ok] at operand
    obtain ⟨base, behind, primary, -⟩ := operand
    rw [readPrimary, peek_bind, eof] at primary
    exact unexpected_ne_ok primary

/-- The tokens of a readable tree and the end behind them are read as the tree. -/
theorem readWhole_tokens (readable : Readable (maxLevels - 1) 0 tree)
    (spelled : tree.Everywhere Expr.IsSpelled) {ending : Token} (ends : ending.kind = .eof) :
    readWhole (tree.tokens ++ [ending]) = (.ok tree, [ending]) := by
  have rereads : Rereads (maxLevels - 1) 0 tree := rereads_of_readable readable spelled
  have inside : readExpr (tree.tokens ++ [ending]) = (.ok tree, [ending]) :=
    rereads.inside readable ends (.inr (.inr rfl))
  have finished : (first [ending]).isEof = true := beq_iff_eq.2 ends
  rw [readWhole, peek_bind, isEof_of_readLevels inside, if_neg Bool.false_ne_true,
    bind_of_ok inside, peek_bind, finished]
  rfl

/-- An accepted input's tree is what its own text stands for. -/
theorem parse_rendered {input : String} (parsed : Expr.parse input = .ok tree)
    (spelled : tree.Everywhere Expr.IsSpelled) : Expr.parse tree.render = .ok tree := by
  have readable := readable_of_parse parsed
  have written : Prints tree.render tree.tokens [] :=
    prints_render readable spelled Text.stops_nil
  obtain ⟨tokens, lexed, same⟩ := Lexes.tokenize written
  -- The text is read as the tokens of the tree, if at other places; places do not matter.
  have alike : tokens.map Token.lexeme =
      (tree.tokens ++ [Token.mk .eof "" 0]).map Token.lexeme := by
    rw [same, List.map_append]
    rfl
  have read := readWhole_of_lexeme alike (readWhole_tokens readable spelled rfl)
  unfold Expr.parse
  rw [lexed]
  dsimp only
  rw [read]
  rfl

/-- A word that is also an aggregation, and a quoted text behind a sign. -/
theorem parse_rendered_sum : ∃ tree, Expr.parse "sum>-'a\\'b'" = .ok tree ∧
    tree.Everywhere Expr.IsSpelled ∧ Expr.parse tree.render = .ok tree := by
  let left : Expr := .vector ⟨some "sum", [], .none⟩
  let right : Expr := .string "a'b"
  have lexed : tokenize "sum>-'a\\'b'" = .ok [⟨.ident, "sum", 0⟩, ⟨.greater, ">", 3⟩,
      ⟨.sub, "-", 4⟩, ⟨.string, "a'b", 5⟩, ⟨.eof, "", 11⟩] := by
    decide +kernel
  have parsed : Expr.parse "sum>-'a\\'b'" =
      .ok (.binary ⟨.greater, false, none⟩ left (.unary .neg right)) :=
    parse_eq_ok.2 ⟨_, lexed, rfl⟩
  have leftSpelled : left.Everywhere Expr.IsSpelled :=
    .node (by simp [left, Expr.IsSpelled]) (by simp [left, Expr.children])
  have rightSpelled : right.Everywhere Expr.IsSpelled := by
    have codes : ['a', '\'', 'b'].any Text.isWrittenByCode = false := by decide
    refine .node (fun c member => ?_) (by simp [right, Expr.children])
    exact Bool.eq_false_iff.2 (List.any_eq_false.1 codes c member)
  have spelled : (Expr.binary ⟨.greater, false, none⟩ left (.unary .neg right)).Everywhere
      Expr.IsSpelled := by
    refine .node trivial fun child member => ?_
    rcases List.mem_pair.1 member with rfl | rfl
    · exact leftSpelled
    · exact .node trivial fun child member => List.mem_singleton.1 member ▸ rightSpelled
  exact ⟨_, parsed, spelled, parse_rendered parsed spelled⟩

end RuleAtlas.Query
