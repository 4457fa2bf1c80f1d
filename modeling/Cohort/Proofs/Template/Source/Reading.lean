import Cohort.Proofs.Template.Source.Scanning
import Cohort.Template.Rendering

/-! # Sources are read back

Reading undoes writing: the source of a tree that can be written is read as that tree.
-/

namespace Cohort

namespace Template

/-! ## The tokens of a tree can be told apart -/

theorem startsApart_action (a : Action) (ts : List Token) : StartsApart (.action a :: ts) := by
  simp [StartsApart]

theorem startsApart_node {n : Node} (h : n.isCanonical = true) (hn : n.isText = false)
    (ts : List Token) : StartsApart (n.tokens ++ ts) := by
  match n with
  | .text _ => cases hn
  | .branches [] _ => simp [Node.isCanonical] at h
  | .branches ((p, body) :: rest) otherwise =>
      simp only [Node.tokens, branchTokens]
      exact startsApart_action _ _
  | .action p | .range p body otherwise | .scope p body otherwise =>
      simp only [Node.tokens]
      exact startsApart_action _ _

theorem startsApart_nodes {nodes : List Node} (h : Node.allCanonical nodes = true)
    (hnodes : nodes.head?.any Node.isText = false) {ts : List Token} (hts : StartsApart ts) :
    StartsApart (tokensOf nodes ++ ts) := by
  cases nodes with
  | nil => simpa [tokensOf] using hts
  | cons n rest =>
      simp only [Node.allCanonical, Bool.and_eq_true] at h
      rw [tokensOf, List.append_assoc]
      exact startsApart_node h.1.1 (by simpa using hnodes) _

theorem startsApart_branches (opens : Pipeline → Action)
    (conditions : List (Pipeline × List Node)) {ts : List Token} (hts : StartsApart ts) :
    StartsApart (branchTokens opens conditions ++ ts) := by
  cases conditions with
  | nil => simpa [branchTokens] using hts
  | cons branch rest =>
      obtain ⟨p, body⟩ := branch
      rw [branchTokens]
      exact startsApart_action _ _

theorem startsApart_end (otherwise : Option (List Node)) (ts : List Token) :
    StartsApart (endTokens otherwise ++ ts) := by
  cases otherwise with
  | none | some nodes =>
      rw [endTokens]
      exact startsApart_action _ _

mutual

theorem printable_node : ∀ (n : Node) {ts : List Token}, n.isCanonical = true → Printable ts →
    (n.isText = true → StartsApart ts) → Printable (n.tokens ++ ts)
  | .text s, ts, h, hts, hnext => by
      simp only [Node.isCanonical] at h
      simpa [Node.tokens] using Printable.text h (hnext rfl) hts
  | .action p, ts, h, hts, _ => by
      simp only [Node.isCanonical] at h
      have ha : (Action.print p).isCanonical = true := h
      simpa [Node.tokens] using hts.action ha
  | .branches conditions otherwise, ts, h, hts, _ => by
      simp only [Node.isCanonical, Bool.and_eq_true] at h
      have hend := printable_end otherwise h.2 hts
      have hconditions := printable_branches conditions .ifOpens (fun p hp => hp) h.1.2 hend
        (startsApart_end otherwise ts)
      simpa [Node.tokens] using hconditions
  | .range p body otherwise, ts, h, hts, _ => by
      simp only [Node.isCanonical, Bool.and_eq_true] at h
      have hend := printable_end otherwise h.2 hts
      have hbody := printable_nodes body h.1.2 hend (startsApart_end otherwise ts)
      have ha : (Action.rangeOpens p).isCanonical = true := h.1.1
      simpa [Node.tokens] using hbody.action ha
  | .scope p body otherwise, ts, h, hts, _ => by
      simp only [Node.isCanonical, Bool.and_eq_true] at h
      have hend := printable_end otherwise h.2 hts
      have hbody := printable_nodes body h.1.2 hend (startsApart_end otherwise ts)
      have ha : (Action.scopeOpens p).isCanonical = true := h.1.1
      simpa [Node.tokens] using hbody.action ha

theorem printable_nodes : ∀ (nodes : List Node) {ts : List Token},
    Node.allCanonical nodes = true → Printable ts → StartsApart ts →
      Printable (tokensOf nodes ++ ts)
  | [], ts, _, hts, _ => by simpa [tokensOf] using hts
  | n :: rest, ts, h, hts, hnext => by
      simp only [Node.allCanonical, Bool.and_eq_true, Bool.not_eq_true'] at h
      have hrest := printable_nodes rest h.2 hts hnext
      rw [tokensOf, List.append_assoc]
      refine printable_node n h.1.1 hrest fun hn => ?_
      exact startsApart_nodes h.2 (by simpa [hn] using h.1.2) hnext

theorem printable_branches : ∀ (conditions : List (Pipeline × List Node))
    (opens : Pipeline → Action) {ts : List Token},
      (∀ p : Pipeline, p.isCanonical 1 = true → (opens p).isCanonical = true) →
        branchesCanonical conditions = true → Printable ts → StartsApart ts →
          Printable (branchTokens opens conditions ++ ts)
  | [], _, ts, _, _, hts, _ => by simpa [branchTokens] using hts
  | (p, body) :: rest, opens, ts, hopens, h, hts, hnext => by
      simp only [branchesCanonical, Bool.and_eq_true] at h
      have hrest := printable_branches rest .elseIf (fun p hp => hp) h.2 hts hnext
      have hbody := printable_nodes body h.1.2 hrest (startsApart_branches .elseIf rest hnext)
      simpa [branchTokens] using hbody.action (hopens p h.1.1)

theorem printable_end : ∀ (otherwise : Option (List Node)) {ts : List Token},
    endCanonical otherwise = true → Printable ts → Printable (endTokens otherwise ++ ts)
  | none, ts, _, hts => by
      have hend : Printable (.action .endBlock :: ts) := hts.action rfl
      simpa [endTokens] using hend
  | some nodes, ts, h, hts => by
      simp only [endCanonical] at h
      have hend : Printable (.action .endBlock :: ts) := hts.action rfl
      have hnodes := printable_nodes nodes h hend (startsApart_action _ _)
      have helse : Printable (.action .elseAlone :: (tokensOf nodes ++ .action .endBlock :: ts)) :=
        hnodes.action rfl
      simpa [endTokens] using helse

end

/-! ## Assembling the tokens of a tree -/

/-- The line on which what follows some tokens begins. -/
def lineAfter (line : Nat) (ts : List Token) : Nat :=
  ts.foldl (fun line t => line + lineBreaks t.content) line

theorem piecesFrom_append (line : Nat) (ts us : List Token) :
    piecesFrom line (ts ++ us) = piecesFrom line ts ++ piecesFrom (lineAfter line ts) us := by
  induction ts generalizing line with
  | nil => rfl
  | cons t ts ih => simp only [List.cons_append, piecesFrom, ih, lineAfter, List.foldl_cons]

/-- The block that an action on a line opens. -/
def Action.block? (line : Nat) : Action → Option Block
  | .ifOpens p => some (.branches line [] p)
  | .rangeOpens p => some (.range line p)
  | .scopeOpens p => some (.scope line p)
  | _ => none

section

variable (line : Nat) (blocks : Blocks) (nodes before : List Node) (more : List Piece)

theorem assemble_print {p : Pipeline} (h : p.isCanonical 1 = true) :
    assemble blocks nodes (.action (Action.print p).source line :: more) =
      assemble blocks (.action p :: nodes) more := by
  have ha : (Action.print p).isCanonical = true := h
  rw [assemble.eq_def]
  simp only [Action.read_source ha]

theorem assemble_opening {a : Action} (ha : a.isCanonical = true) {block : Block}
    (hblock : a.block? line = some block) :
    assemble blocks nodes (.action a.source line :: more) =
      assemble ((block, nodes) :: blocks) [] more := by
  rw [assemble.eq_def]
  simp only [Action.read_source ha]
  cases a with
  | ifOpens p | rangeOpens p | scopeOpens p => rw [← Option.some.inj hblock]
  | elseIf p | elseAlone | endBlock | print p => cases hblock

theorem assemble_elseIf {p : Pipeline} (h : p.isCanonical 1 = true) (start : Nat)
    (done : List (Pipeline × List Node)) (condition : Pipeline) :
    assemble ((.branches start done condition, before) :: blocks) nodes
        (.action (Action.elseIf p).source line :: more) =
      assemble ((.branches start ((condition, nodes.reverse) :: done) p, before) :: blocks) []
        more := by
  have ha : (Action.elseIf p).isCanonical = true := h
  rw [assemble, Action.read_source ha]
  rfl

theorem assemble_elseAlone {block turned : Block} (h : block.turn nodes.reverse line = .ok turned) :
    assemble ((block, before) :: blocks) nodes (.action Action.elseAlone.source line :: more) =
      assemble ((turned, before) :: blocks) [] more := by
  rw [assemble, Action.read_source rfl]
  simp only [h]
  rfl

theorem assemble_endBlock (block : Block) :
    assemble ((block, before) :: blocks) nodes (.action Action.endBlock.source line :: more) =
      assemble blocks (block.finish nodes.reverse :: before) more := by
  rw [assemble, Action.read_source rfl]

end

-- What was read of a block stands in reverse, and so do the branches before the open one.
mutual

theorem assemble_node : ∀ (n : Node), n.isCanonical = true → ∀ (line : Nat) (blocks : Blocks)
    (nodes : List Node) (more : List Piece),
      assemble blocks nodes (piecesFrom line n.tokens ++ more) = assemble blocks (n :: nodes) more
  | .text s, _, line, blocks, nodes, more => by
      simp only [Node.tokens, piecesFrom, Token.piece, List.cons_append, List.nil_append, assemble]
  | .action p, h, line, blocks, nodes, more => by
      simp only [Node.isCanonical] at h
      simp only [Node.tokens, piecesFrom, Token.piece, List.cons_append, List.nil_append]
      exact assemble_print line blocks nodes more h
  | .branches [] _, h, _, _, _, _ => by simp [Node.isCanonical] at h
  | .branches ((p, body) :: rest) otherwise, h, line, blocks, nodes, more => by
      simp only [Node.isCanonical, branchesCanonical, Bool.and_eq_true] at h
      have ha : (Action.ifOpens p).isCanonical = true := h.1.2.1.1
      simp only [Node.tokens, branchTokens, piecesFrom, piecesFrom_append, Token.piece,
        List.cons_append, List.append_assoc, assemble_opening line blocks nodes _ ha rfl,
        assemble_nodes body h.1.2.1.2]
      obtain ⟨done, last, ns, hconditions, hrest⟩ := assemble_branches rest h.1.2.2 _ line [] p
        nodes blocks (body.reverse ++ []) _
      have hread : ((last, ns.reverse) :: done).reverse = (p, body) :: rest := by
        simpa using hconditions
      rw [hrest]
      refine assemble_end (.branches ((p, body) :: rest)) otherwise h.2 ?_ ?_ _ _ _ _
      · rw [Block.finish, hread]
      · intro turnLine
        refine ⟨.branchesElse turnLine ((last, ns.reverse) :: done), rfl, fun last => ?_⟩
        rw [Block.finish, hread]
  | .range p body otherwise, h, line, blocks, nodes, more => by
      simp only [Node.isCanonical, Bool.and_eq_true] at h
      have ha : (Action.rangeOpens p).isCanonical = true := h.1.1
      simp only [Node.tokens, piecesFrom, piecesFrom_append, Token.piece, List.cons_append,
        List.append_assoc, assemble_opening line blocks nodes _ ha rfl, assemble_nodes body h.1.2]
      refine assemble_end (.range p body) otherwise h.2 ?_ ?_ _ _ _ _
      · simp [Block.finish]
      · exact fun turnLine => ⟨.rangeElse turnLine p body, by simp [Block.turn], fun _ => rfl⟩
  | .scope p body otherwise, h, line, blocks, nodes, more => by
      simp only [Node.isCanonical, Bool.and_eq_true] at h
      have ha : (Action.scopeOpens p).isCanonical = true := h.1.1
      simp only [Node.tokens, piecesFrom, piecesFrom_append, Token.piece, List.cons_append,
        List.append_assoc, assemble_opening line blocks nodes _ ha rfl, assemble_nodes body h.1.2]
      refine assemble_end (.scope p body) otherwise h.2 ?_ ?_ _ _ _ _
      · simp [Block.finish]
      · exact fun turnLine => ⟨.scopeElse turnLine p body, by simp [Block.turn], fun _ => rfl⟩

theorem assemble_nodes : ∀ (body : List Node), Node.allCanonical body = true → ∀ (line : Nat)
    (blocks : Blocks) (nodes : List Node) (more : List Piece),
      assemble blocks nodes (piecesFrom line (tokensOf body) ++ more) =
        assemble blocks (body.reverse ++ nodes) more
  | [], _, _, _, _, _ => by
      simp only [tokensOf, piecesFrom, List.nil_append, List.reverse_nil]
  | n :: rest, h, line, blocks, nodes, more => by
      simp only [Node.allCanonical, Bool.and_eq_true] at h
      simp only [tokensOf, piecesFrom_append, List.append_assoc, assemble_node n h.1.1,
        assemble_nodes rest h.2, List.reverse_cons, List.nil_append, List.cons_append]

theorem assemble_branches : ∀ (conditions : List (Pipeline × List Node)),
    branchesCanonical conditions = true → ∀ (line start : Nat) (done : List (Pipeline × List Node))
      (condition : Pipeline) (before : List Node) (blocks : Blocks) (nodes : List Node)
      (more : List Piece), ∃ done' last nodes',
        done'.reverse ++ [(last, nodes'.reverse)] =
            done.reverse ++ (condition, nodes.reverse) :: conditions ∧
          assemble ((.branches start done condition, before) :: blocks) nodes
              (piecesFrom line (branchTokens .elseIf conditions) ++ more) =
            assemble ((.branches start done' last, before) :: blocks) nodes' more
  | [], _, line, start, done, condition, before, blocks, nodes, more => by
      refine ⟨done, condition, nodes, rfl, ?_⟩
      simp only [branchTokens, piecesFrom, List.nil_append]
  | (p, body) :: rest, h, line, start, done, condition, before, blocks, nodes, more => by
      simp only [branchesCanonical, Bool.and_eq_true] at h
      obtain ⟨done', last, nodes', hconditions, hrest⟩ := assemble_branches rest h.2
        (lineAfter (line + lineBreaks (Action.elseIf p).padded) (tokensOf body)) start
        ((condition, nodes.reverse) :: done) p before blocks (body.reverse ++ []) more
      refine ⟨done', last, nodes', by simp [hconditions], ?_⟩
      simp only [branchTokens, piecesFrom, piecesFrom_append, Token.piece, Token.content,
        List.cons_append, List.append_assoc, assemble_elseIf _ _ _ _ _ h.1.1,
        assemble_nodes body h.1.2, hrest]

theorem assemble_end (node : Option (List Node) → Node) : ∀ (otherwise : Option (List Node)),
    endCanonical otherwise = true → ∀ {block : Block} {nodes : List Node},
      block.finish nodes.reverse = node none →
        (∀ line, ∃ turned, block.turn nodes.reverse line = .ok turned ∧
          ∀ ns, turned.finish ns = node (some ns)) →
        ∀ (line : Nat) (before : List Node) (blocks : Blocks) (more : List Piece),
          assemble ((block, before) :: blocks) nodes
              (piecesFrom line (endTokens otherwise) ++ more) =
            assemble blocks (node otherwise :: before) more
  | none, _, block, nodes, hfinish, _, line, before, blocks, more => by
      simp only [endTokens, piecesFrom, Token.piece, List.cons_append, List.nil_append,
        assemble_endBlock, hfinish]
  | some ns, h, block, nodes, _, hturn, line, before, blocks, more => by
      simp only [endCanonical] at h
      obtain ⟨turned, hturned, hfinish⟩ := hturn line
      simp only [endTokens, piecesFrom, piecesFrom_append, Token.piece, List.cons_append,
        List.append_assoc, List.nil_append, assemble_elseAlone _ _ _ _ _ hturned,
        assemble_nodes ns h, assemble_endBlock]
      simp [hfinish]

end

theorem parse_source {nodes : List Node} (h : Node.allCanonical nodes = true) :
    parse (Node.source nodes) = .ok nodes := by
  have hapart : StartsApart [] := by simp [StartsApart]
  have hprintable := printable_nodes nodes h .nil hapart
  have hassemble := assemble_nodes nodes h 1 [] [] []
  rw [List.append_nil] at hprintable
  simp only [List.append_nil, assemble, List.reverse_reverse] at hassemble
  rw [parse, Node.source, scan_tokens hprintable]
  exact hassemble

end Template

open Template

/-- A tree that can be written is what its source is read as: every text, name, literal, pipeline
and block is found again, whatever braces, quotes and keywords stand in the texts and names. -/
theorem read_source_of_allCanonical {nodes : List Node} (h : Node.allCanonical nodes = true) :
    Template.read (Node.source nodes) = .ok ⟨nodes⟩ := by
  rw [Template.read, parse_source h]
  rfl

/-- A tree with every kind of node and operand, whose texts and names look like the marks and the
words of templates. -/
def lookalikes : List Node :=
  [.text "end \x7d\x7d \x7b'",
    .action (.mk ["$if"] [.operand (.literal (.str "\x7d\x7d \\\" \x7b\x7b- end"))]),
    .branches
      [(.mk [] [.call "eq" [.field ["nil", "end"], .literal (.num (.int (-9223372036854775808)))]],
          [.text "`"]),
        (.mk [] [.operand (.group (.mk [] [.operand (.field []), .call "len" []]) ["if"])], [])]
      (some [.action (.mk [] [.operand (.variable "$" ["a"]),
        .call "print" [.literal .null, .variable "$if" [], .literal (.bool true)]])]),
    .range (.mk ["$i", "$v"] [.operand (.field ["range"])])
      [.scope (.mk [] [.operand (.literal (.bool false))]) [.text "\n"] none] (some []),
    .text "/* \x7d"]

/-- The source of that tree. -/
def lookalikesSource : String :=
  "end \x7d\x7d \x7b'\x7b\x7b $if := \"\x7d\x7d \\\\\\\" \x7b\x7b- end\" \x7d\x7d" ++
    "\x7b\x7b if eq .nil.end -9223372036854775808 \x7d\x7d`" ++
    "\x7b\x7b else if (. | len).if \x7d\x7d" ++
    "\x7b\x7b else \x7d\x7d\x7b\x7b $.a | print nil $if true \x7d\x7d\x7b\x7b end \x7d\x7d" ++
    "\x7b\x7b range $i, $v := .range \x7d\x7d" ++
    "\x7b\x7b with false \x7d\x7d\n\x7b\x7b end \x7d\x7d" ++
    "\x7b\x7b else \x7d\x7d\x7b\x7b end \x7d\x7d/* \x7d"

theorem read_lookalikes :
    Node.allCanonical lookalikes = true ∧ Template.read lookalikesSource = .ok ⟨lookalikes⟩ := by
  have hcanonical : Node.allCanonical lookalikes = true := by decide +kernel
  have hsource : Node.source lookalikes = lookalikesSource := by decide +kernel
  rw [← hsource]
  exact ⟨hcanonical, read_source_of_allCanonical hcanonical⟩

end Cohort
