import Cohort.Proofs.Template.Source.Layout

/-! # Steps of reading a source

One step of the scanner takes the text up to an action, and the action. One step of the assembler
takes a piece.
-/

namespace Cohort.Template

open Text

/-! ## Outcomes of successful readers -/

theorem exists_of_map_fst {α β γ : Type} {m : Option (α × γ)} {g : α → β} {b : β} {r : γ}
    (h : (m.map fun (a, r) => (g a, r)) = some (b, r)) : ∃ a, m = some (a, r) ∧ b = g a := by
  obtain ⟨⟨a, r'⟩, hm, heq⟩ := Option.map_eq_some_iff.mp h
  obtain ⟨rfl, rfl⟩ := Prod.mk.inj heq
  exact ⟨a, hm, rfl⟩

theorem exists_of_bind_ok {ε α β : Type} {m : Except ε α} {f : α → Except ε β} {b : β}
    (h : (m >>= f) = .ok b) : ∃ a, m = .ok a ∧ f a = .ok b := by
  cases m with
  | error e => cases h
  | ok a => exact ⟨a, rfl, h⟩

theorem exists_of_map_ok {ε α β : Type} {m : Except ε α} {f : α → β} {b : β}
    (h : m.map f = .ok b) : ∃ a, m = .ok a ∧ f a = b := by
  cases m with
  | error e => cases h
  | ok a => exact ⟨a, rfl, Except.ok.inj h⟩

/-! ## What the scanner takes away -/

theorem cut?_eq_some {mark s before after : List Char} (h : cut? mark s = some (before, after)) :
    s = before ++ (mark ++ after) := by
  induction s generalizing before with
  | nil => cases h
  | cons c s ih =>
      rw [cut?] at h
      split at h
      · rename_i rest hrest
        obtain ⟨rfl, rfl⟩ := Prod.mk.inj (Option.some.inj h)
        exact (dropPrefix?_eq_some_iff.mp hrest).symm
      · obtain ⟨b, hcut, rfl⟩ := exists_of_map_fst h
        rw [ih hcut, List.cons_append]

theorem closeFrom_eq_some {q : Option Char} {s body rest : List Char}
    (h : closeFrom q s = some (body, rest)) : s = body ++ '\x7d' :: '\x7d' :: rest := by
  fun_induction closeFrom q s generalizing body rest with
  | case1 | case3 => cases h
  | case2 _ _ ih | case5 _ _ _ _ _ ih | case7 _ _ _ _ ih | case8 _ _ _ _ ih =>
      obtain ⟨b, hb, rfl⟩ := exists_of_map_fst h
      rw [ih hb, List.cons_append]
  | case4 _ c _ _ d _ ih =>
      obtain ⟨b, hb, rfl⟩ := exists_of_map_fst (g := fun b => c :: d :: b) h
      rw [ih hb, List.cons_append, List.cons_append]
  | case6 c s hbraces =>
      obtain ⟨rfl, rfl⟩ := Prod.mk.inj (Option.some.inj h)
      obtain ⟨rfl, hhead⟩ := hbraces
      rw [List.nil_append, ← List.cons_head?_tail hhead, List.tail_cons]

theorem close?_eq_some {s body rest : List Char} (h : close? s = some (body, rest)) :
    s = body ++ '\x7d' :: '\x7d' :: rest := by
  rw [close?] at h
  split at h
  · exact closeFrom_eq_some h
  · split at h
    · cases h
    · rename_i before after hcut
      obtain ⟨b, hb, rfl⟩ := exists_of_map_fst (g := fun b => before ++ '*' :: '/' :: b) h
      rw [cut?_eq_some hcut, closeFrom_eq_some hb]
      simp

theorem length_leftTrim? {s inner : List Char} (h : leftTrim? s = some inner) :
    inner.length < s.length := by
  rw [leftTrim?.eq_def] at h
  split at h
  · split at h
    · obtain rfl := Option.some.inj h
      simp
    · cases h
  · cases h

/-- An action takes away from the source that it is in. -/
theorem length_rest {s before after inner raw rest text lead : List Char}
    (hcut : cut? ['\x7b', '\x7b'] s = some (before, after))
    (hinner : (match leftTrim? after with
      | some inner => (dropEndWhile isBlank lead, inner)
      | none => (lead, after)) = (text, inner))
    (hclose : close? inner = some (raw, rest)) : rest.length < s.length := by
  have hlength : inner.length ≤ after.length := by
    split at hinner
    · rename_i hleft
      obtain ⟨-, rfl⟩ := Prod.mk.inj hinner
      exact (length_leftTrim? hleft).le
    · obtain ⟨-, rfl⟩ := Prod.mk.inj hinner
      rfl
  rw [close?_eq_some hclose] at hlength
  rw [cut?_eq_some hcut]
  simp only [List.length_append, List.length_cons] at hlength ⊢
  omega

/-! ## What the scanner finds -/

theorem mem_textPiece {s : List Char} {p : Piece} (h : p ∈ textPiece s) : p ≠ .text "" := by
  rw [textPiece] at h
  split at h
  · cases h
  · rename_i hne
    rw [List.mem_singleton] at h
    rintro rfl
    have heq : ([] : List Char) = s := by
      simpa using congrArg String.toList (Piece.text.inj h)
    exact hne (by rw [← heq]; rfl)

/-- A source has no piece that is an empty text. -/
theorem scanFrom_texts {fuel line : Nat} {trimmed : Bool} {s : List Char} {pieces : List Piece}
    (h : scanFrom fuel line trimmed s = .ok pieces) : ∀ p ∈ pieces, p ≠ .text "" := by
  fun_induction scanFrom fuel line trimmed s generalizing pieces
  case case1 =>
    obtain rfl := Except.ok.inj h
    simp
  case case2 =>
    obtain rfl := Except.ok.inj h
    exact fun p hp => mem_textPiece hp
  case case3 | case5 | case6 => cases h
  case case4 ih =>
    obtain ⟨found, hfound, hpieces⟩ := exists_of_bind_ok h
    obtain rfl := Except.ok.inj hpieces
    intro p hp
    rw [List.mem_append] at hp
    exact hp.elim mem_textPiece (ih hfound p)
  case case7 ih =>
    obtain ⟨found, hfound, hpieces⟩ := exists_of_bind_ok h
    obtain rfl := Except.ok.inj hpieces
    intro p hp
    rw [List.mem_append, List.mem_cons] at hp
    obtain hp | rfl | hp := hp
    · exact mem_textPiece hp
    · exact Piece.noConfusion
    · exact ih hfound p hp

/-- Where a source begins does not change what is found in it, but for the lines that are told. -/
theorem scanFrom_relined {fuel line : Nat} {trimmed : Bool} {s : List Char} {pieces : List Piece}
    (h : scanFrom fuel line trimmed s = .ok pieces) (hs : s.length < fuel) {fuel' : Nat}
    (hs' : s.length < fuel') (line' : Nat) :
    ∃ pieces', scanFrom fuel' line' trimmed s = .ok pieces' ∧
      pieces'.map Piece.unlined = pieces.map Piece.unlined := by
  fun_induction scanFrom fuel line trimmed s generalizing pieces fuel' line'
  case case1 => cases hs
  all_goals obtain ⟨fuel', rfl⟩ := Nat.exists_eq_add_one_of_ne_zero (Nat.ne_zero_of_lt hs')
  case case2 hcut =>
    rw [scanFrom]
    simp only [hcut]
    exact ⟨_, h, rfl⟩
  case case3 | case5 | case6 => cases h
  case case4 before after hcut here text inner hinner raw rest hclose next body trimNext hbody
      trimmedBody comment hcomment hend ih =>
    have hrest := length_rest hcut hinner hclose
    obtain ⟨found, hfound, hpieces⟩ := exists_of_bind_ok h
    obtain rfl := Except.ok.inj hpieces
    have hmore : rest.length < fuel' := by omega
    obtain ⟨found', hfound', hsame⟩ := ih hfound (by omega) hmore
      (line' + lineBreaks before + lineBreaks raw)
    rw [scanFrom]
    simp only [hcut]
    rw [hinner]
    simp only [hclose]
    rw [hbody]
    simp only
    rw [hcomment]
    simp only [hend, if_true]
    rw [hfound']
    refine ⟨_, rfl, ?_⟩
    rw [List.map_append, List.map_append, hsame]
  case case7 before after hcut here text inner hinner raw rest hclose next body trimNext hbody
      trimmedBody hcomment hne ih =>
    have hrest := length_rest hcut hinner hclose
    obtain ⟨found, hfound, hpieces⟩ := exists_of_bind_ok h
    obtain rfl := Except.ok.inj hpieces
    have hmore : rest.length < fuel' := by omega
    obtain ⟨found', hfound', hsame⟩ := ih hfound (by omega) hmore
      (line' + lineBreaks before + lineBreaks raw)
    rw [scanFrom]
    simp only [hcut]
    rw [hinner]
    simp only [hclose]
    rw [hbody]
    simp only
    rw [hcomment]
    simp only
    rw [if_neg hne, hfound']
    refine ⟨_, rfl, ?_⟩
    simp only [List.map_append, List.map_cons, hsame]
    rfl

/-! ## What the assembler makes of an action -/

/-- What an action on a line makes of the open blocks and the nodes before it. -/
def Action.advance (line : Nat) (blocks : Blocks) (nodes : List Node) :
    Action → Except Fault (Blocks × List Node)
  | .print p => .ok (blocks, .action p :: nodes)
  | .ifOpens p => .ok ((.branches line [] p, nodes) :: blocks, [])
  | .rangeOpens p => .ok ((.range line p, nodes) :: blocks, [])
  | .scopeOpens p => .ok ((.scope line p, nodes) :: blocks, [])
  | .elseIf p =>
    match blocks with
    | [] => .error (.parse line .strayElse)
    | (block, before) :: outer =>
      (block.turnIf nodes.reverse line p).map fun block => ((block, before) :: outer, [])
  | .elseAlone =>
    match blocks with
    | [] => .error (.parse line .strayElse)
    | (block, before) :: outer =>
      (block.turn nodes.reverse line).map fun block => ((block, before) :: outer, [])
  | .endBlock =>
    match blocks with
    | [] => .error (.parse line .strayEnd)
    | (block, before) :: outer => .ok (outer, block.finish nodes.reverse :: before)

theorem assemble_text (blocks : Blocks) (nodes : List Node) (s : String) (rest : List Piece) :
    assemble blocks nodes (.text s :: rest) = assemble blocks (.text s :: nodes) rest := by
  cases blocks <;> rfl

theorem assemble_action (blocks : Blocks) (nodes : List Node) (body : List Char) (line : Nat)
    (rest : List Piece) :
    assemble blocks nodes (.action body line :: rest) =
      match Action.read body with
      | .error fault => .error (.parse line fault)
      | .ok a => (a.advance line blocks nodes).bind fun (blocks, nodes) =>
          assemble blocks nodes rest := by
  rw [assemble.eq_def]
  simp only
  cases Action.read body with
  | error fault => rfl
  | ok a =>
      cases a with
      | elseIf p =>
          cases blocks with
          | nil => rfl
          | cons entry outer =>
              obtain ⟨block, before⟩ := entry
              simp only [Action.advance]
              cases block.turnIf nodes.reverse line p <;> rfl
      | elseAlone =>
          cases blocks with
          | nil => rfl
          | cons entry outer =>
              obtain ⟨block, before⟩ := entry
              simp only [Action.advance]
              cases block.turn nodes.reverse line <;> rfl
      | endBlock => cases blocks <;> rfl
      | _ => rfl

end Cohort.Template
