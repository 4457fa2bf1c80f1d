import Cohort.Proofs.Template.Source.Reading

/-! # Sources that are laid out over lines

An action may take the white space before it away, and so stand on a line of its own. Such a source
is read as the one without that white space: its lines are of account for faults only.
-/

namespace Cohort.Template

open Text

variable {s t : List Char}

/-! ## Lines are for faults only -/

/-- A piece that does not tell its line. -/
def Piece.unlined : Piece → Piece
  | .text s => .text s
  | .action body _ => .action body 0

/-- A block that does not tell its line. -/
def Block.unlined : Block → Block
  | .branches _ done condition => .branches 0 done condition
  | .range _ p => .range 0 p
  | .scope _ p => .scope 0 p
  | .branchesElse _ done => .branchesElse 0 done
  | .rangeElse _ p body => .rangeElse 0 p body
  | .scopeElse _ p body => .scopeElse 0 p body

/-- Open blocks that do not tell their lines. -/
def Blocks.unlined (blocks : Blocks) : Blocks :=
  blocks.map fun (block, nodes) => (block.unlined, nodes)

theorem assemble_unlined (blocks : Blocks) (nodes : List Node) (pieces : List Piece) :
    (assemble blocks.unlined nodes (pieces.map Piece.unlined)).toOption =
      (assemble blocks nodes pieces).toOption := by
  induction pieces generalizing blocks nodes with
  | nil =>
      cases blocks with
      | nil => rfl
      | cons entry blocks => rfl
  | cons piece pieces ih =>
      cases piece with
      | text text =>
          simp only [List.map_cons, Piece.unlined, assemble]
          exact ih blocks (.text text :: nodes)
      | action body line =>
          rw [List.map_cons, Piece.unlined, assemble.eq_def, assemble.eq_def blocks]
          simp only
          cases Action.read body with
          | error fault => rfl
          | ok a =>
              cases a with
              | print p => exact ih blocks (.action p :: nodes)
              | ifOpens p => exact ih ((.branches line [] p, nodes) :: blocks) []
              | rangeOpens p => exact ih ((.range line p, nodes) :: blocks) []
              | scopeOpens p => exact ih ((.scope line p, nodes) :: blocks) []
              | elseIf p =>
                  cases blocks with
                  | nil => rfl
                  | cons entry outer =>
                      obtain ⟨block, before⟩ := entry
                      cases block with
                      | branches start done condition =>
                          exact ih ((.branches start ((condition, nodes.reverse) :: done) p,
                            before) :: outer) []
                      | _ => rfl
              | elseAlone =>
                  cases blocks with
                  | nil => rfl
                  | cons entry outer =>
                      obtain ⟨block, before⟩ := entry
                      cases block with
                      | branches start done condition =>
                          exact ih ((.branchesElse line ((condition, nodes.reverse) :: done),
                            before) :: outer) []
                      | range start p =>
                          exact ih ((.rangeElse line p nodes.reverse, before) :: outer) []
                      | scope start p =>
                          exact ih ((.scopeElse line p nodes.reverse, before) :: outer) []
                      | _ => rfl
              | endBlock =>
                  cases blocks with
                  | nil => rfl
                  | cons entry outer =>
                      obtain ⟨block, before⟩ := entry
                      have hend := ih outer (block.finish nodes.reverse :: before)
                      cases block with
                      | _ => exact hend

/-! ## Layouts -/

/-- The tokens of a text: none if it is empty. -/
def textTokens (s : List Char) : List Token :=
  if s.isEmpty then [] else [.text (String.ofList s)]

/-- An action that takes the white space before it away. -/
def Action.trimmed (a : Action) : List Char :=
  ['\x7b', '\x7b', '-'] ++ (a.padded ++ ['\x7d', '\x7d'])

/-- Whether a text ends in white space. -/
def endsInBlank (s : List Char) : Bool := s.getLast?.any isBlank

theorem endsInBlank_append (s : List Char) {t : List Char} (h : t ≠ []) :
    endsInBlank (s ++ t) = endsInBlank t := by
  rw [endsInBlank, List.getLast?_append_of_ne_nil _ h, endsInBlank]

/-- A source of some tokens. Before an action that takes white space away there may be any, but the
text before it does not end in some of its own. -/
inductive LaysOut : List Token → List Char → Prop where
  | last {text : List Char} (htext : ¬ ['\x7b', '\x7b'] <:+: text) : LaysOut (textTokens text) text
  | action {before s : List Char} {a : Action} {ts : List Token} (hbefore : Clean before)
      (ha : a.isCanonical = true) : LaysOut ts s →
        LaysOut (textTokens before ++ .action a :: ts) (before ++ ((Token.action a).source ++ s))
  | trimmed {before gap s : List Char} {a : Action} {ts : List Token}
      (hbefore : Clean (before ++ gap)) (hlast : endsInBlank before = false)
      (hgap : gap.all isBlank = true) (ha : a.isCanonical = true) : LaysOut ts s →
        LaysOut (textTokens before ++ .action a :: ts) (before ++ (gap ++ (a.trimmed ++ s)))

theorem dropEndWhile_append (hs : endsInBlank s = false) (ht : t.all isBlank = true) :
    dropEndWhile isBlank (s ++ t) = s := by
  have hdrop : (t.reverse ++ s.reverse).dropWhile isBlank = s.reverse := by
    refine dropWhile_append (fun c hc => ?_) fun c hc => ?_
    · exact List.all_eq_true.mp ht c (by simpa using hc)
    · have hlast : s.getLast? = some c := by simpa using hc
      simpa [endsInBlank, hlast] using hs
  rw [dropEndWhile, List.reverse_append, hdrop, List.reverse_reverse]

theorem unlined_textPiece (s : List Char) :
    (textPiece s).map Piece.unlined = (textTokens s).map (Token.piece 0) := by
  rw [textPiece, textTokens]
  split <;> rfl

/-- Behind a dash the white space at the end of the text is lost. -/
theorem scanFrom_trimmed {before gap : List Char} (hbefore : Clean (before ++ gap))
    (hlast : endsInBlank before = false) (hgap : gap.all isBlank = true)
    {a : Action} (ha : a.isCanonical = true) (fuel line : Nat) (rest : List Char) :
    ∃ here next, scanFrom (fuel + 1) line false (before ++ (gap ++ (a.trimmed ++ rest))) =
      (scanFrom fuel next false rest).map fun pieces =>
        textPiece before ++ .action a.source here :: pieces := by
  have hbody := Action.isBody_source ha
  have hcut := hbefore.cut?_append ('-' :: (a.padded ++ '\x7d' :: '\x7d' :: rest))
  have hsource : before ++ (gap ++ (a.trimmed ++ rest)) =
      before ++ gap ++ '\x7b' :: '\x7b' :: '-' :: (a.padded ++ '\x7d' :: '\x7d' :: rest) := by
    simp [Action.trimmed]
  have hleft : leftTrim? ('-' :: (a.padded ++ '\x7d' :: '\x7d' :: rest)) =
      some (a.padded ++ '\x7d' :: '\x7d' :: rest) := rfl
  have hdrop : dropEndWhile isBlank (before ++ gap) = before := dropEndWhile_append hlast hgap
  have hclose : close? (a.padded ++ '\x7d' :: '\x7d' :: rest) = some (a.padded, rest) :=
    hbody.close?_padded rest
  have hright : rightTrim? a.padded = none := rightTrim?_padded a.source
  have htrim : trim a.padded = a.source := hbody.trim_padded
  obtain ⟨c, r, hfirst, -, hslash⟩ := hbody.first
  have hcomment : dropPrefix? ['/', '*'] a.source = none := by
    simp [hfirst, dropPrefix?, Ne.symm hslash]
  have hne : a.source.isEmpty = false := by simp [hfirst]
  refine ⟨line + lineBreaks (before ++ gap),
    line + lineBreaks (before ++ gap) + lineBreaks a.padded, ?_⟩
  rw [hsource, scanFrom]
  simp only [hcut, hleft, hclose, hright, htrim, hcomment, hne, Bool.false_eq_true, if_false, hdrop]
  cases scanFrom fuel (line + lineBreaks (before ++ gap) + lineBreaks a.padded) false rest <;> rfl

theorem scanFrom_layout {ts : List Token} (h : LaysOut ts s) {fuel : Nat} (line : Nat)
    (hfuel : s.length < fuel) :
    ∃ pieces, scanFrom fuel line false s = .ok pieces ∧
      pieces.map Piece.unlined = ts.map (Token.piece 0) := by
  induction h generalizing fuel line with
  | @last text htext =>
      obtain ⟨fuel, rfl⟩ := Nat.exists_eq_add_one_of_ne_zero (Nat.ne_zero_of_lt hfuel)
      have hcut := cut?_of_not_infix htext
      exact ⟨textPiece text, by simp [scanFrom, hcut], unlined_textPiece text⟩
  | @action before s a ts hbefore ha _ ih =>
      obtain ⟨fuel, rfl⟩ := Nat.exists_eq_add_one_of_ne_zero (Nat.ne_zero_of_lt hfuel)
      simp only [Token.source, List.length_append, List.length_cons] at hfuel
      have hmore : s.length < fuel := by omega
      obtain ⟨pieces, hscan, hpieces⟩ :=
        ih (line + lineBreaks before + lineBreaks a.padded) hmore
      rw [scanFrom_action hbefore ha, hscan]
      refine ⟨_, rfl, ?_⟩
      rw [List.map_append, List.map_append, unlined_textPiece, List.map_cons, hpieces]
      rfl
  | @trimmed before gap s a ts hbefore hlast hgap ha _ ih =>
      obtain ⟨fuel, rfl⟩ := Nat.exists_eq_add_one_of_ne_zero (Nat.ne_zero_of_lt hfuel)
      simp only [Action.trimmed, List.length_append, List.length_cons] at hfuel
      have hmore : s.length < fuel := by omega
      obtain ⟨here, next, hstep⟩ := scanFrom_trimmed hbefore hlast hgap ha fuel line s
      obtain ⟨pieces, hscan, hpieces⟩ := ih next hmore
      rw [hstep, hscan]
      refine ⟨_, rfl, ?_⟩
      rw [List.map_append, List.map_append, unlined_textPiece, List.map_cons, hpieces]
      rfl

theorem unlined_piecesFrom (line : Nat) (ts : List Token) :
    (piecesFrom line ts).map Piece.unlined = ts.map (Token.piece 0) := by
  induction ts generalizing line with
  | nil => rfl
  | cons t ts ih =>
      rw [piecesFrom, List.map_cons, List.map_cons, ih]
      cases t <;> rfl

/-- A layout is read as the tree that its tokens are those of. The text in front may end in a brace,
if white space parts it from the first action. -/
theorem read_layout {source lead : String} {nodes : List Node}
    (hnodes : Node.allCanonical nodes = true)
    (h : LaysOut (.text lead :: tokensOf nodes) source.toList) :
    Template.read source = .ok ⟨.text lead :: nodes⟩ := by
  obtain ⟨pieces, hscan, hpieces⟩ := scanFrom_layout h 1 (Nat.lt_succ_self _)
  have hassemble := assemble_nodes nodes hnodes 1 [] [.text lead] []
  simp only [List.append_nil, assemble, List.reverse_append, List.reverse_reverse,
    List.reverse_singleton, List.singleton_append] at hassemble
  have hlines : pieces.map Piece.unlined =
      (.text lead :: piecesFrom 1 (tokensOf nodes)).map Piece.unlined := by
    rw [hpieces, List.map_cons, List.map_cons, unlined_piecesFrom]
    rfl
  have hsame := assemble_unlined [] [] pieces
  rw [hlines, assemble_unlined, assemble, hassemble] at hsame
  rw [Template.read, parse, scan, hscan]
  cases hresult : assemble [] [] pieces with
  | error fault =>
      rw [hresult] at hsame
      cases hsame
  | ok result =>
      rw [hresult] at hsame
      cases hsame
      change (assemble [] [] pieces).map Template.mk = _
      rw [hresult]
      rfl

end Cohort.Template
