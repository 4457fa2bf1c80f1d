import Cohort.Proofs.Template.Source.Interleaving
import Cohort.Proofs.Template.Source.Steps

/-! # Comments

A comment is dropped, and what stands around it is read as if it were not there. The search for the
end of a comment begins at its own opening, so a slash behind the opening star already counts as the
end, and what follows is searched for braces as the rest of an action is.
-/

namespace Cohort.Template

open Text

variable {s t b r c pre rest : List Char} {q : Option Char}

/-! ## The end of a comment -/

/-- A comment in a source. -/
def comment (c : List Char) : List Char :=
  '\x7b' :: '\x7b' :: '/' :: '*' :: (c ++ ['*', '/', '\x7d', '\x7d'])

/-- A slash at the start of a comment is followed by a text that closes its quotes and has no two
closing braces outside quotes. -/
def IsSkipped (c : List Char) : Prop := ∀ t, c = '/' :: t → Closed t

theorem cut?_commentEnd (hs : ¬ ['*', '/'] <:+: s) (rest : List Char) :
    cut? ['*', '/'] (s ++ '*' :: '/' :: rest) = some (s, rest) := by
  induction s with
  | nil => rfl
  | cons c s ih =>
      rw [List.infix_cons_iff, not_or] at hs
      have hnone : dropPrefix? ['*', '/'] (c :: (s ++ '*' :: '/' :: rest)) = none := by
        rw [Option.eq_none_iff_forall_not_mem]
        intro after hafter
        obtain ⟨rfl, htail⟩ := List.cons.inj (dropPrefix?_eq_some_iff.mp hafter)
        cases s with
        | nil => cases htail
        | cons d s =>
            obtain ⟨rfl, -⟩ := List.cons.inj htail
            exact hs.1 ⟨s, rfl⟩
      rw [List.cons_append, cut?, hnone, ih hs.2]
      rfl

theorem closeFrom_closing (rest : List Char) :
    closeFrom none ('\x7d' :: '\x7d' :: rest) = some ([], rest) := by
  simp [closeFrom]

theorem close?_comment (hc : ¬ ['*', '/'] <:+: c) (hskip : IsSkipped c) (rest : List Char) :
    close? ('/' :: '*' :: (c ++ '*' :: '/' :: '\x7d' :: '\x7d' :: rest)) =
      some ('/' :: '*' :: (c ++ ['*', '/']), rest) := by
  have hslash : isBlank '/' = false := by decide
  have hopen : dropPrefix? ['/', '*'] (('/' :: '*' :: (c ++ '*' :: '/' :: '\x7d' :: '\x7d' ::
      rest)).dropWhile isBlank) = some (c ++ '*' :: '/' :: '\x7d' :: '\x7d' :: rest) := by
    simp [hslash, dropPrefix?]
  rw [close?, hopen]
  by_cases hfirst : c.head? = some '/'
  · -- The comment ends at its first slash, and the rest of it is passed as what is closed.
    obtain ⟨t, rfl⟩ := List.head?_eq_some_iff.mp hfirst
    have hclosed := (hskip t rfl).closeFrom_append
      ('*' :: '/' :: '\x7d' :: '\x7d' :: rest) (by simp)
    have hend : closeFrom none ('*' :: '/' :: '\x7d' :: '\x7d' :: rest) =
        some (['*', '/'], rest) := by
      simp [closeFrom]
    simp [cut?, dropPrefix?, hclosed, hend]
  · have hnone : ¬ ['*', '/'] <:+: '/' :: '*' :: c := by
      simp only [List.infix_cons_iff, not_or]
      refine ⟨by simp, fun hprefix => ?_, hc⟩
      obtain ⟨after, hafter⟩ := hprefix
      exact hfirst (by simp [← (List.cons.inj hafter).2])
    have hcut := cut?_commentEnd hnone ('\x7d' :: '\x7d' :: rest)
    simp only [List.cons_append] at hcut
    simp [hcut, closeFrom_closing]

/-! ## One comment -/

theorem trim_comment (c : List Char) :
    trim ('/' :: '*' :: (c ++ ['*', '/'])) = '/' :: '*' :: (c ++ ['*', '/']) := by
  have hslash : isBlank '/' = false := by decide
  simp [trim, trimWhile, dropEndWhile, hslash]

/-- The scanner passes over a comment. -/
theorem scanFrom_comment (hpre : Clean pre) (hc : ¬ ['*', '/'] <:+: c) (hskip : IsSkipped c)
    (fuel line : Nat) (rest : List Char) :
    scanFrom (fuel + 1) line false (pre ++ (comment c ++ rest)) =
      (scanFrom fuel (line + lineBreaks pre + lineBreaks ('/' :: '*' :: (c ++ ['*', '/']))) false
        rest).map fun pieces => textPiece pre ++ pieces := by
  have hsource : pre ++ (comment c ++ rest) = pre ++ '\x7b' :: '\x7b' ::
      ('/' :: '*' :: (c ++ '*' :: '/' :: '\x7d' :: '\x7d' :: rest)) := by
    simp [comment]
  have hcut := hpre.cut?_append ('/' :: '*' :: (c ++ '*' :: '/' :: '\x7d' :: '\x7d' :: rest))
  have hleft : leftTrim? ('/' :: '*' :: (c ++ '*' :: '/' :: '\x7d' :: '\x7d' :: rest)) = none := rfl
  have hright : rightTrim? ('/' :: '*' :: (c ++ ['*', '/'])) = none := by simp [rightTrim?]
  have hbody : dropPrefix? ['/', '*'] ('/' :: '*' :: (c ++ ['*', '/'])) = some (c ++ ['*', '/']) := by
    simp [dropPrefix?]
  have hend : (dropSuffix? ['*', '/'] (c ++ ['*', '/'])).isSome = true := by
    simp [dropSuffix?, dropPrefix?]
  rw [hsource, scanFrom]
  simp only [hcut, hleft, close?_comment hc hskip, hright, trim_comment, hbody, hend, if_true]
  generalize scanFrom fuel _ false rest = result
  cases result <;> rfl

/-! ## Nodes before a source -/

/-- Open blocks and nodes, with more nodes before all of them. -/
def Blocks.above (base : List Node) : Blocks → List Node → Blocks × List Node
  | [], nodes => ([], nodes ++ base)
  | (block, before) :: outer, nodes =>
    let (outer, before) := Blocks.above base outer before
    ((block, before) :: outer, nodes)

theorem Action.advance_above (a : Action) (base : List Node) (line : Nat) (blocks : Blocks)
    (nodes : List Node) :
    a.advance line (blocks.above base nodes).1 (blocks.above base nodes).2 =
      (a.advance line blocks nodes).map fun (blocks, nodes) => blocks.above base nodes := by
  cases blocks with
  | nil => cases a <;> rfl
  | cons entry outer =>
      obtain ⟨block, before⟩ := entry
      cases a with
      | elseIf p =>
          simp only [Blocks.above, Action.advance]
          cases block.turnIf nodes.reverse line p <;> rfl
      | elseAlone =>
          simp only [Blocks.above, Action.advance]
          cases block.turn nodes.reverse line <;> rfl
      | endBlock => cases outer <;> rfl
      | _ => rfl

/-- Nodes before a source stay before those of the source. -/
theorem assemble_above (base : List Node) (blocks : Blocks) (nodes : List Node)
    (pieces : List Piece) :
    assemble (blocks.above base nodes).1 (blocks.above base nodes).2 pieces =
      (assemble blocks nodes pieces).map fun nodes => base.reverse ++ nodes := by
  induction pieces generalizing blocks nodes with
  | nil =>
      cases blocks with
      | nil => simp [Blocks.above, assemble, Except.map]
      | cons entry outer => rfl
  | cons piece pieces ih =>
      cases piece with
      | text text =>
          have hmore := ih blocks (.text text :: nodes)
          rw [assemble_text, assemble_text, ← hmore]
          cases blocks <;> rfl
      | action body line =>
          rw [assemble_action, assemble_action]
          cases Action.read body with
          | error fault => rfl
          | ok a =>
              simp only [a.advance_above base]
              cases a.advance line blocks nodes with
              | error fault => rfl
              | ok state => exact ih state.1 state.2

/-- The node of a text, unless it is empty. -/
def textNodes (s : List Char) : List Node :=
  if s.isEmpty then [] else [.text (String.ofList s)]

theorem assemble_textPiece (s : List Char) (pieces : List Piece) :
    assemble [] [] (textPiece s ++ pieces) =
      (assemble [] [] pieces).map fun nodes => textNodes s ++ nodes := by
  have habove := assemble_above (textNodes s) [] [] pieces
  have hreverse : (textNodes s).reverse = textNodes s := by
    rw [textNodes]
    split <;> rfl
  rw [hreverse] at habove
  rw [← habove, textPiece, textNodes]
  split <;> rfl

/-- The lines of pieces are for faults only. -/
theorem assemble_eq_ok_of_unlined {pieces pieces' : List Piece} {nodes : List Node}
    (hsame : pieces'.map Piece.unlined = pieces.map Piece.unlined)
    (h : assemble [] [] pieces = .ok nodes) : assemble [] [] pieces' = .ok nodes := by
  have hunlined := assemble_unlined [] [] pieces'
  rw [hsame, assemble_unlined, h] at hunlined
  cases hresult : assemble [] [] pieces' with
  | error fault =>
      rw [hresult] at hunlined
      cases hunlined
  | ok result =>
      rw [hresult] at hunlined
      cases hunlined
      rfl

theorem parse_skipped (hpre : Clean pre) (hc : ¬ ['*', '/'] <:+: c) (hskip : IsSkipped c)
    {post : String} {nodes : List Node} (hpost : parse post = .ok nodes) :
    parse (String.ofList (pre ++ (comment c ++ post.toList))) = .ok (textNodes pre ++ nodes) := by
  obtain ⟨pieces, hscan, hassemble⟩ := exists_of_bind_ok hpost
  have hfuel : post.toList.length < (pre ++ (comment c ++ post.toList)).length := by
    simp only [comment, List.length_append, List.length_cons]
    omega
  obtain ⟨pieces', hscan', hsame⟩ := scanFrom_relined hscan (Nat.lt_succ_self _) hfuel
    (1 + lineBreaks pre + lineBreaks ('/' :: '*' :: (c ++ ['*', '/'])))
  have hsource : scan (String.ofList (pre ++ (comment c ++ post.toList))) =
      .ok (textPiece pre ++ pieces') := by
    rw [scan, String.toList_ofList, scanFrom_comment hpre hc hskip, hscan']
    rfl
  have hnodes := assemble_eq_ok_of_unlined hsame hassemble
  change ((scan _).bind fun pieces => assemble [] [] pieces) = _
  rw [hsource]
  change assemble [] [] (textPiece pre ++ pieces') = _
  rw [assemble_textPiece, hnodes]
  rfl

/-! ## Comments that are not skipped -/

/-- What the search for the closing braces finds, with a quote under way or without. -/
def ClosedFrom : Option Char → List Char → Prop
  | none, s => Closed s
  | some q, s => ∃ t r, s = t ++ r ∧ Quotation q t ∧ Closed r

theorem closedFrom_of_closeFrom (hq : ∀ c ∈ q, c ∈ quotes) (h : closeFrom q s = some (b, r)) :
    ClosedFrom q b := by
  fun_induction closeFrom q s generalizing b with
  | case1 | case3 => cases h
  | case2 q s ih =>
      obtain ⟨b, hb, rfl⟩ := exists_of_map_fst h
      exact ⟨[q], b, rfl, .close, ih (by simp) hb⟩
  | case4 q c hc hback d s ih =>
      obtain ⟨b, hb, rfl⟩ := exists_of_map_fst (g := fun b => c :: d :: b) h
      obtain ⟨t, r, rfl, ht, hr⟩ := ih hq hb
      obtain ⟨rfl, hback⟩ := hback
      exact ⟨'\\' :: d :: t, r, rfl, .escaped hback ht, hr⟩
  | case5 q c s hc hback ih =>
      obtain ⟨b, hb, rfl⟩ := exists_of_map_fst h
      obtain ⟨t, r, rfl, ht, hr⟩ := ih hq hb
      exact ⟨c :: t, r, rfl, .plain hc (fun heq => of_not_not fun hne => hback ⟨heq, hne⟩) ht, hr⟩
  | case6 c s hbraces =>
      obtain ⟨rfl, rfl⟩ := Prod.mk.inj (Option.some.inj h)
      exact .nil
  | case7 c s hbraces hquote ih =>
      have hmem : c ∈ quotes := by simpa [quotes] using hquote
      obtain ⟨b, hb, rfl⟩ := exists_of_map_fst h
      obtain ⟨t, r, rfl, ht, hr⟩ := ih (by simpa using hmem) hb
      exact .quoted hmem ht hr
  | case8 c s hbraces hquote ih =>
      have hmem : c ∉ quotes := by simpa [quotes] using hquote
      obtain ⟨b, hb, rfl⟩ := exists_of_map_fst h
      refine .plain hmem (fun heq hhead => hbraces ⟨heq, ?_⟩) (ih (by simp) hb)
      obtain ⟨b, rfl⟩ := List.head?_eq_some_iff.mp hhead
      rw [closeFrom_eq_some hb]
      rfl

theorem Quotation.getLast? {q : Char} (h : Quotation q t) : t.getLast? = some q := by
  induction h with
  | close => rfl
  | plain _ _ _ ih | escaped _ _ ih => simp [List.getLast?_cons, ih]

theorem Closed.of_append (h : Closed (t ++ s)) (hs : ∀ c ∈ s, c ∉ quotes) : Closed t := by
  generalize heq : t ++ s = w at h
  induction h generalizing t with
  | nil =>
      obtain ⟨rfl, -⟩ := List.append_eq_nil_iff.mp heq
      exact .nil
  | @plain c w hquote hbrace _ ih =>
      cases t with
      | nil => exact .nil
      | cons d t =>
          obtain ⟨rfl, rfl⟩ := List.cons.inj heq
          refine .plain hquote (fun hd hhead => hbrace hd ?_) (ih rfl)
          obtain ⟨t, rfl⟩ := List.head?_eq_some_iff.mp hhead
          rfl
  | @quoted q u w hq hu _ ih =>
      cases t with
      | nil => exact .nil
      | cons d t =>
          obtain ⟨rfl, htail⟩ := List.cons.inj heq
          obtain ⟨a, rfl, rfl⟩ | ⟨a, rfl, rfl⟩ := List.append_eq_append_iff.mp htail
          · have hlast := hu.getLast?
            cases a using List.reverseRecOn with
            | nil =>
                rw [List.append_nil] at hu
                simpa using Closed.quoted hq hu .nil
            | append_singleton a e =>
                obtain rfl : e = d := by simpa [← List.append_assoc] using hlast
                exact absurd hq (hs e (by simp))
          · exact .quoted hq hu (ih rfl)

/-- In a comment that is not skipped the braces close the action too early. -/
theorem closing_prefix (hopen : ¬ Closed t)
    (h : closeFrom none (t ++ ['*', '/', '\x7d', '\x7d']) = some (b, r)) : b <+: t := by
  have hclosed : Closed b := closedFrom_of_closeFrom (by simp) h
  obtain ⟨a, hb, hend⟩ | ⟨a, ht, -⟩ := List.append_eq_append_iff.mp (closeFrom_eq_some h)
  · -- The braces found are those behind the comment. Then its text would be closed.
    have ha : a = ['*', '/'] := by
      match a, hend with
      | [x, y], hend =>
          obtain ⟨hx, hend⟩ := List.cons.inj hend
          rw [← hx, ← (List.cons.inj hend).1]
      | [], hend | [_], hend | [_, _, _], hend | _ :: _ :: _ :: _ :: _, hend => simp at hend
    rw [hb, ha] at hclosed
    exact absurd (hclosed.of_append (by simp [quotes])) hopen
  · exact ⟨a, ht.symm⟩

theorem exists_of_rightTrim? (h : rightTrim? ('/' :: '*' :: '/' :: b) = some r) :
    ∃ u, r = '/' :: '*' :: '/' :: u ∧ u <+: b := by
  cases b using List.reverseRecOn with
  | nil => cases h
  | append_singleton b d =>
      have hreverse : ('/' :: '*' :: '/' :: (b ++ [d])).reverse =
          d :: ('/' :: '*' :: '/' :: b).reverse := by
        simp
      rw [rightTrim?, hreverse] at h
      split at h
      · rename_i c u heq
        rw [← (List.cons.inj heq).2, List.reverse_reverse] at h
        split at h
        · exact ⟨b, (Option.some.inj h).symm, List.prefix_append b [d]⟩
        · cases h
      · cases h

theorem exists_trim_slash (b : List Char) :
    ∃ u, trim ('/' :: '*' :: '/' :: b) = '/' :: '*' :: '/' :: u ∧ u <+: b := by
  have hslash : isBlank '/' = false := by decide
  have hkeep : (b.reverse ++ ['/', '*', '/']).dropWhile isBlank =
      b.reverse.dropWhile isBlank ++ ['/', '*', '/'] := by
    rw [List.dropWhile_append]
    split <;> simp_all
  refine ⟨dropEndWhile isBlank b, ?_, List.rdropWhile_prefix _ _⟩
  simp [trim, trimWhile, dropEndWhile, hslash, hkeep]

theorem suffix_of_dropSuffix? (h : (dropSuffix? s t).isSome = true) : s <:+ t := by
  rw [dropSuffix?, Option.isSome_map, Option.isSome_iff_exists] at h
  obtain ⟨rest, hrest⟩ := h
  exact List.reverse_prefix.mp ⟨rest, dropPrefix?_eq_some_iff.mp hrest⟩

/-- A source that is a comment which is not skipped is refused. -/
theorem parse_unskipped (hc : ¬ ['*', '/'] <:+: '/' :: t) (hopen : ¬ Closed t) :
    parse (String.ofList (comment ('/' :: t))) = .error (.parse 1 .unclosedAction) ∨
      parse (String.ofList (comment ('/' :: t))) = .error (.parse 1 .unclosedComment) := by
  have hslash : isBlank '/' = false := by decide
  have hcut : cut? ['\x7b', '\x7b'] (comment ('/' :: t)) =
      some ([], '/' :: '*' :: '/' :: (t ++ ['*', '/', '\x7d', '\x7d'])) := by
    simp [comment, cut?, dropPrefix?]
  have hleft : leftTrim? ('/' :: '*' :: '/' :: (t ++ ['*', '/', '\x7d', '\x7d'])) = none := rfl
  have hunfinished : ∀ u, u <+: t → ∃ inner,
      dropPrefix? ['/', '*'] (trim ('/' :: '*' :: '/' :: u)) = some inner ∧
        (dropSuffix? ['*', '/'] inner).isSome = false := by
    intro u hu
    obtain ⟨v, htrim, hv⟩ := exists_trim_slash u
    refine ⟨'/' :: v, by simp [htrim, dropPrefix?], Bool.eq_false_iff.mpr fun hend => hc ?_⟩
    obtain ⟨w, hw⟩ := hv.trans hu
    rw [← hw, ← List.cons_append]
    exact (suffix_of_dropSuffix? hend).isInfix.trans (List.prefix_append _ w).isInfix
  rw [parse, scan, String.toList_ofList, scanFrom]
  simp only [hcut, hleft]
  cases hfound : closeFrom none (t ++ ['*', '/', '\x7d', '\x7d']) with
  | none =>
      have hclose : close? ('/' :: '*' :: '/' :: (t ++ ['*', '/', '\x7d', '\x7d'])) = none := by
        simp [close?, cut?, dropPrefix?, hslash, hfound]
      rw [hclose]
      exact .inl rfl
  | some found =>
      obtain ⟨b, r⟩ := found
      have hb := closing_prefix hopen hfound
      have hclose : close? ('/' :: '*' :: '/' :: (t ++ ['*', '/', '\x7d', '\x7d'])) =
          some ('/' :: '*' :: '/' :: b, r) := by
        simp [close?, cut?, dropPrefix?, hslash, hfound]
      refine .inr ?_
      simp only [hclose]
      cases hright : rightTrim? ('/' :: '*' :: '/' :: b) with
      | none =>
          obtain ⟨inner, hinner, hend⟩ := hunfinished b hb
          simp only [hinner, hend]
          rfl
      | some body =>
          obtain ⟨u, rfl, hu⟩ := exists_of_rightTrim? hright
          obtain ⟨inner, hinner, hend⟩ := hunfinished u (hu.trans hb)
          simp only [hinner, hend]
          rfl

/-- A comment is dropped, wherever it stands, exactly if it does not start with a slash, or closes
its quotes behind that slash and has no two closing braces outside quotes. -/
theorem parse_comment (hc : ¬ ['*', '/'] <:+: c) :
    (∀ (pre : List Char) (post : String) (nodes : List Node), Clean pre → parse post = .ok nodes →
      parse (String.ofList (pre ++ (comment c ++ post.toList))) = .ok (textNodes pre ++ nodes)) ↔
      IsSkipped c := by
  constructor
  · rintro h t rfl
    by_contra hopen
    have hdropped := h [] "" [] ⟨by simp, by simp⟩ rfl
    simp only [String.toList_empty, List.append_nil, List.nil_append] at hdropped
    obtain hfault | hfault := parse_unskipped hc hopen
    all_goals
      rw [hfault] at hdropped
      cases hdropped
  · intro hskip pre post nodes hpre hpost
    exact parse_skipped hpre hc hskip hpost

/-- A comment that starts with a slash, has braces in quotes and ends in a star. -/
def slashComment : List Char := "/ \"\x7d\x7d\" \x7b\x7b *".toList

theorem parse_slashComment :
    ¬ ['*', '/'] <:+: slashComment ∧
      parse "a \x7b\x7b/*/ \"\x7d\x7d\" \x7b\x7b **/\x7d\x7d\x7b\x7b .b \x7d\x7d" =
        .ok [.text "a ", .action (.mk [] [.operand (.field ["b"])])] := by
  have hc : ¬ ['*', '/'] <:+: slashComment := by decide +kernel
  have hquote : Quotation '"' ['\x7d', '\x7d', '"'] :=
    .plain (by decide) (by decide) (.plain (by decide) (by decide) .close)
  have hrest : Closed [' ', '\x7b', '\x7b', ' ', '*'] := by
    repeat refine .plain (by decide) (by decide) ?_
    exact .nil
  have hclosed : Closed [' ', '"', '\x7d', '\x7d', '"', ' ', '\x7b', '\x7b', ' ', '*'] :=
    .plain (by decide) (by decide) (.quoted (by decide) hquote hrest)
  have hskip : IsSkipped slashComment := by
    intro t ht
    rw [← (List.cons.inj ht).2]
    exact hclosed
  have hpost : parse "\x7b\x7b .b \x7d\x7d" = .ok [.action (.mk [] [.operand (.field ["b"])])] := by
    rfl
  have hsource : String.ofList (['a', ' '] ++ (comment slashComment ++
      "\x7b\x7b .b \x7d\x7d".toList)) =
      "a \x7b\x7b/*/ \"\x7d\x7d\" \x7b\x7b **/\x7d\x7d\x7b\x7b .b \x7d\x7d" := by
    decide +kernel
  refine ⟨hc, ?_⟩
  rw [← hsource, (parse_comment hc).mpr hskip ['a', ' '] _ _ ⟨by decide, by decide⟩ hpost]
  rfl

/-- The braces in this comment close the action, because the slash in front counts as its end. -/
theorem parse_slashBraces :
    ¬ ['*', '/'] <:+: "/ skip \x7d\x7d me ".toList ∧ Clean ['a'] ∧ parse "b" = .ok [.text "b"] ∧
      parse (String.ofList (['a'] ++ (comment "/ skip \x7d\x7d me ".toList ++ "b".toList))) =
        .error (.parse 1 .unclosedComment) := by
  refine ⟨by decide +kernel, ⟨by decide, by decide⟩, by rfl, by rfl⟩

end Cohort.Template
