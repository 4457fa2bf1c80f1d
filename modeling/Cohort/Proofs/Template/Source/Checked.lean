import Cohort.Proofs.Template.Elements
import Cohort.Proofs.Template.Source.Steps

/-! # What is read is sound

The grammar gives every pipeline a command. What is checked of an action reaches every pipeline in
it, so all that is assembled is as asked.
-/

namespace Cohort.Template

/-! ## Pipelines are not empty -/

/-- A pipeline has commands. -/
def Element.IsFilled : Element → Prop
  | .node _ => True
  | .pipeline _ p => p.commands ≠ []

/-- All pipelines have commands. -/
def AllFilled (elements : List Element) : Prop := ∀ e ∈ elements, e.IsFilled

theorem allFilled_append {es es' : List Element} :
    AllFilled (es ++ es') ↔ AllFilled es ∧ AllFilled es' :=
  List.forall_mem_append

mutual

theorem filled_operand? : ∀ {fuel : Nat} {s : List Char} {o : Operand} {rest : List Char},
    operand? fuel s = some (o, rest) → AllFilled o.elements
  | 0, _, _, _, h => by cases h
  | fuel + 1, s, o, rest, h => by
      rw [operand?.eq_def] at h
      simp only at h
      split at h
      · split at h
        all_goals
          obtain ⟨rfl, -⟩ := Prod.mk.inj (Option.some.inj h)
          exact List.forall_mem_nil _
      · split at h
        · obtain ⟨rfl, -⟩ := Prod.mk.inj (Option.some.inj h)
          exact List.forall_mem_nil _
        · cases h
      · split at h
        · rename_i p after hp
          split at h
          · obtain ⟨rfl, -⟩ := Prod.mk.inj (Option.some.inj h)
            exact filled_pipeline? hp
          · cases h
        · cases h
      · obtain ⟨v, -, rfl⟩ := exists_of_map_fst (g := Operand.literal) h
        exact List.forall_mem_nil _

theorem filled_operands : ∀ (fuel : Nat) (s : List Char),
    AllFilled (Operand.allElements (operands fuel s).1)
  | 0, _ => List.forall_mem_nil _
  | fuel + 1, s => by
      rw [operands]
      split
      · split
        · rename_i o rest ho
          exact allFilled_append.mpr ⟨filled_operand? ho, filled_operands fuel rest⟩
        · exact List.forall_mem_nil _
      · exact List.forall_mem_nil _

theorem filled_command? : ∀ {fuel : Nat} {s : List Char} {c : Command} {rest : List Char},
    command? fuel s = some (c, rest) → AllFilled c.elements
  | 0, _, _, _, h => by cases h
  | fuel + 1, s, c, rest, h => by
      rw [command?] at h
      split at h
      · rename_i name after _
        obtain ⟨rfl, -⟩ := Prod.mk.inj (Option.some.inj h)
        exact filled_operands fuel after
      · obtain ⟨o, ho, rfl⟩ := exists_of_map_fst (g := Command.operand) h
        exact filled_operand? ho

theorem filled_moreCommands : ∀ (fuel : Nat) (s : List Char),
    AllFilled (Command.allElements (moreCommands fuel s).1)
  | 0, _ => List.forall_mem_nil _
  | fuel + 1, s => by
      rw [moreCommands]
      split
      · split
        · rename_i c rest hc
          exact allFilled_append.mpr ⟨filled_command? hc, filled_moreCommands fuel rest⟩
        · exact List.forall_mem_nil _
      · exact List.forall_mem_nil _

theorem filled_pipeline? : ∀ {fuel : Nat} {s : List Char} {p : Pipeline} {rest : List Char}
    {place : Place}, pipeline? fuel s = some (p, rest) → AllFilled (p.elementsAt place)
  | 0, _, _, _, _, h => by cases h
  | fuel + 1, s, p, rest, place, h => by
      rw [pipeline?] at h
      simp only at h
      split at h
      · rename_i c after hc
        obtain ⟨rfl, -⟩ := Prod.mk.inj (Option.some.inj h)
        refine List.forall_mem_cons.mpr ⟨List.cons_ne_nil _ _, ?_⟩
        exact allFilled_append.mpr ⟨filled_command? hc, filled_moreCommands fuel after⟩
      · cases h

end

/-! ## The check reaches all pipelines -/

mutual

theorem sound_of_checkOperand : ∀ {o : Operand}, checkOperand o = .ok () →
    AllFilled o.elements → AllSound o.elements
  | .group p _, h, hfilled => by
      rw [checkOperand] at h
      exact sound_of_checkPipeline .group rfl h hfilled
  | .field _, _, _ | .variable _ _, _, _ | .literal _, _, _ => allSound_nil

theorem sound_of_checkOperands : ∀ {os : List Operand}, checkOperands os = .ok () →
    AllFilled (Operand.allElements os) → AllSound (Operand.allElements os)
  | [], _, _ => allSound_nil
  | o :: os, h, hfilled => by
      obtain ⟨⟨⟩, ho, hos⟩ := exists_of_bind_ok h
      have hfilled := allFilled_append.mp hfilled
      exact allSound_append.mpr
        ⟨sound_of_checkOperand ho hfilled.1, sound_of_checkOperands hos hfilled.2⟩

theorem sound_of_checkCommands : ∀ {first : Bool} {cs : List Command},
    checkCommands first cs = .ok () → AllFilled (Command.allElements cs) →
      AllSound (Command.allElements cs) ∧ (∀ c ∈ cs, c.isKnown = true) ∧
        ∀ c ∈ if first then cs.tail else cs, c.isCall = true
  | first, [], _, _ => by cases first <;> simp [Command.allElements]
  | first, .call name args :: cs, h, hfilled => by
      rw [checkCommands] at h
      split at h
      · rename_i hname
        obtain ⟨⟨⟩, hargs, hcs⟩ := exists_of_bind_ok h
        have hfilled := allFilled_append.mp hfilled
        obtain ⟨hsound, hknown, hcalls⟩ := sound_of_checkCommands hcs hfilled.2
        refine ⟨allSound_append.mpr ⟨sound_of_checkOperands hargs hfilled.1, hsound⟩,
          List.forall_mem_cons.mpr ⟨hname, hknown⟩, ?_⟩
        cases first with
        | true => exact hcalls
        | false => exact List.forall_mem_cons.mpr ⟨rfl, hcalls⟩
      · cases h
  | first, .operand o :: cs, h, hfilled => by
      rw [checkCommands] at h
      split at h
      · rename_i hfirst
        subst hfirst
        obtain ⟨⟨⟩, ho, hcs⟩ := exists_of_bind_ok h
        have hfilled := allFilled_append.mp hfilled
        obtain ⟨hsound, hknown, hcalls⟩ := sound_of_checkCommands hcs hfilled.2
        exact ⟨allSound_append.mpr ⟨sound_of_checkOperand ho hfilled.1, hsound⟩,
          List.forall_mem_cons.mpr ⟨rfl, hknown⟩, hcalls⟩
      · cases h

theorem sound_of_checkPipeline : ∀ (place : Place) {limit : Nat} {p : Pipeline},
    place.limit = limit → checkPipeline limit p = .ok () →
      AllFilled (p.elementsAt place) → AllSound (p.elementsAt place)
  | place, _, .mk decls commands, rfl, h, hfilled => by
      rw [checkPipeline] at h
      split at h
      · cases h
      · rename_i hdecls
        obtain ⟨hne, hfilled⟩ := List.forall_mem_cons.mp hfilled
        obtain ⟨hsound, hknown, hcalls⟩ := sound_of_checkCommands h hfilled
        exact allSound_cons.mpr ⟨⟨Nat.not_lt.mp hdecls, hne, hcalls, hknown⟩, hsound⟩

end

/-! ## Actions -/

/-- The pipelines of an action. -/
def Action.elements : Action → List Element
  | .ifOpens p | .elseIf p | .scopeOpens p | .print p => p.elementsAt .value
  | .rangeOpens p => p.elementsAt .items
  | .elseAlone | .endBlock => []

theorem filled_after {fuel : Nat} {before : Option (List Char)} {make : Pipeline → Action}
    {a : Action} {rest : List Char}
    (hmake : ∀ p, ∃ place, (make p).elements = p.elementsAt place)
    (h : ((before.bind (pipeline? fuel)).map fun (p, rest) => (make p, rest)) = some (a, rest)) :
    AllFilled a.elements := by
  obtain ⟨p, hp, rfl⟩ := exists_of_map_fst h
  obtain ⟨s, -, hp⟩ := Option.bind_eq_some_iff.mp hp
  obtain ⟨place, hplace⟩ := hmake p
  rw [hplace]
  exact filled_pipeline? hp

theorem filled_word {before : Option (List Char)} {word a : Action} {rest : List Char}
    (hword : word.elements = [])
    (h : (before.map fun rest => (word, Text.skipSpace rest)) = some (a, rest)) :
    AllFilled a.elements := by
  obtain ⟨after, -, heq⟩ := Option.map_eq_some_iff.mp h
  obtain ⟨rfl, -⟩ := Prod.mk.inj heq
  rw [hword]
  exact List.forall_mem_nil _

theorem filled_action? {s rest : List Char} {a : Action} (h : action? s = some (a, rest)) :
    AllFilled a.elements := by
  simp only [action?, Option.orElse_eq_or, Option.or_eq_some_iff] at h
  obtain h | ⟨-, h | ⟨-, h | ⟨-, h | ⟨-, h | ⟨-, h | ⟨-, h⟩⟩⟩⟩⟩⟩ := h
  · exact filled_after (fun _ => ⟨.value, rfl⟩) h
  · exact filled_after (fun _ => ⟨.value, rfl⟩) h
  · exact filled_word rfl h
  · exact filled_word rfl h
  · exact filled_after (fun _ => ⟨.items, rfl⟩) h
  · exact filled_after (fun _ => ⟨.value, rfl⟩) h
  · exact filled_after (fun _ => ⟨.value, rfl⟩) h

theorem sound_of_read {body : List Char} {a : Action} (h : Action.read body = .ok a) :
    AllSound a.elements := by
  rw [Action.read] at h
  split at h
  · rename_i a' haction
    obtain ⟨⟨⟩, hcheck, ha⟩ := exists_of_bind_ok h
    obtain rfl := Except.ok.inj ha
    have hfilled := filled_action? haction
    cases a' with
    | ifOpens p | elseIf p | scopeOpens p | print p =>
        exact sound_of_checkPipeline .value rfl hcheck hfilled
    | rangeOpens p => exact sound_of_checkPipeline .items rfl hcheck hfilled
    | elseAlone | endBlock => exact allSound_nil
  · cases h
  · cases h

/-! ## Blocks -/

/-- Whatever sound nodes a block ends with, its node is sound. -/
def Block.IsSound (block : Block) : Prop :=
  ∀ nodes, AllSound (Node.allElements nodes) → AllSound (block.finish nodes).elements

/-- All open blocks are sound, and the nodes before them. -/
def Blocks.AllSound (blocks : Blocks) : Prop :=
  ∀ entry ∈ blocks, entry.1.IsSound ∧ Template.AllSound (Node.allElements entry.2)

section

variable {block block' : Block} {blocks : Blocks} {nodes : List Node} {line : Nat} {p : Pipeline}

theorem Block.isSound_branches (hp : AllSound (p.elementsAt .value)) (line : Nat) :
    (Block.branches line [] p).IsSound := fun _ hnodes =>
  allSound_branches.mpr ⟨List.cons_ne_nil _ _,
    allSound_append.mpr ⟨hp, allSound_append.mpr ⟨hnodes, allSound_nil⟩⟩, allSound_nil⟩

theorem Block.isSound_range (hp : AllSound (p.elementsAt .items)) (line : Nat) :
    (Block.range line p).IsSound := fun _ hnodes => allSound_range.mpr ⟨hp, hnodes, allSound_nil⟩

theorem Block.isSound_scope (hp : AllSound (p.elementsAt .value)) (line : Nat) :
    (Block.scope line p).IsSound := fun _ hnodes => allSound_scope.mpr ⟨hp, hnodes, allSound_nil⟩

theorem Block.IsSound.turn (h : block.IsSound) (hnodes : AllSound (Node.allElements nodes))
    (hturn : block.turn nodes line = .ok block') : block'.IsSound := by
  -- What was read so far is known from the node that an `end` would make of it now.
  have hfinish := h nodes hnodes
  intro last hlast
  cases block with
  | branches start done condition =>
      obtain rfl := Except.ok.inj hturn
      obtain ⟨hne, hconditions, -⟩ := allSound_branches.mp hfinish
      exact allSound_branches.mpr ⟨hne, hconditions, hlast⟩
  | range start p =>
      obtain rfl := Except.ok.inj hturn
      obtain ⟨hp, hbody, -⟩ := allSound_range.mp hfinish
      exact allSound_range.mpr ⟨hp, hbody, hlast⟩
  | scope start p =>
      obtain rfl := Except.ok.inj hturn
      obtain ⟨hp, hbody, -⟩ := allSound_scope.mp hfinish
      exact allSound_scope.mpr ⟨hp, hbody, hlast⟩
  | branchesElse | rangeElse | scopeElse => cases hturn

theorem Block.IsSound.turnIf (h : block.IsSound) (hnodes : AllSound (Node.allElements nodes))
    (hp : AllSound (p.elementsAt .value)) (hturn : block.turnIf nodes line p = .ok block') :
    block'.IsSound := by
  have hfinish := h nodes hnodes
  intro last hlast
  cases block with
  | branches start done condition =>
      obtain rfl := Except.ok.inj hturn
      obtain ⟨-, hconditions, -⟩ := allSound_branches.mp hfinish
      rw [finish, List.reverse_cons, allSound_branches]
      exact ⟨List.append_ne_nil_of_right_ne_nil _ (List.cons_ne_nil _ _),
        allSound_branchElements_concat.mpr ⟨hconditions, hp, hlast⟩, allSound_nil⟩
  | range | scope | branchesElse | rangeElse | scopeElse => cases hturn

/-- An action keeps what is open and what was read sound. -/
theorem sound_of_advance {a : Action} {state : Blocks × List Node} (ha : AllSound a.elements)
    (hblocks : blocks.AllSound) (hnodes : AllSound (Node.allElements nodes))
    (h : a.advance line blocks nodes = .ok state) :
    state.1.AllSound ∧ AllSound (Node.allElements state.2) := by
  cases a with
  | print p =>
      obtain rfl := Except.ok.inj h
      exact ⟨hblocks, allSound_append.mpr ⟨allSound_action.mpr ha, hnodes⟩⟩
  | ifOpens p =>
      obtain rfl := Except.ok.inj h
      exact ⟨List.forall_mem_cons.mpr ⟨⟨Block.isSound_branches ha line, hnodes⟩, hblocks⟩,
        allSound_nil⟩
  | rangeOpens p =>
      obtain rfl := Except.ok.inj h
      exact ⟨List.forall_mem_cons.mpr ⟨⟨Block.isSound_range ha line, hnodes⟩, hblocks⟩,
        allSound_nil⟩
  | scopeOpens p =>
      obtain rfl := Except.ok.inj h
      exact ⟨List.forall_mem_cons.mpr ⟨⟨Block.isSound_scope ha line, hnodes⟩, hblocks⟩,
        allSound_nil⟩
  | elseIf p =>
      cases blocks with
      | nil => cases h
      | cons entry outer =>
          obtain ⟨⟨hblock, hbefore⟩, houter⟩ := List.forall_mem_cons.mp hblocks
          obtain ⟨block', hturn, rfl⟩ := exists_of_map_ok h
          have hblock' := hblock.turnIf (allSound_reverse.mpr hnodes) ha hturn
          exact ⟨List.forall_mem_cons.mpr ⟨⟨hblock', hbefore⟩, houter⟩, allSound_nil⟩
  | elseAlone =>
      cases blocks with
      | nil => cases h
      | cons entry outer =>
          obtain ⟨⟨hblock, hbefore⟩, houter⟩ := List.forall_mem_cons.mp hblocks
          obtain ⟨block', hturn, rfl⟩ := exists_of_map_ok h
          have hblock' := hblock.turn (allSound_reverse.mpr hnodes) hturn
          exact ⟨List.forall_mem_cons.mpr ⟨⟨hblock', hbefore⟩, houter⟩, allSound_nil⟩
  | endBlock =>
      cases blocks with
      | nil => cases h
      | cons entry outer =>
          obtain rfl := Except.ok.inj h
          obtain ⟨⟨hblock, hbefore⟩, houter⟩ := List.forall_mem_cons.mp hblocks
          have hnode := hblock nodes.reverse (allSound_reverse.mpr hnodes)
          exact ⟨houter, allSound_append.mpr ⟨hnode, hbefore⟩⟩

end

/-! ## Sources -/

theorem sound_of_assemble {blocks : Blocks} {nodes nodes' : List Node} {pieces : List Piece}
    (hblocks : blocks.AllSound) (hnodes : AllSound (Node.allElements nodes))
    (hpieces : ∀ piece ∈ pieces, piece ≠ .text "") (h : assemble blocks nodes pieces = .ok nodes') :
    AllSound (Node.allElements nodes') := by
  induction pieces generalizing blocks nodes with
  | nil =>
      cases blocks with
      | nil =>
          obtain rfl := Except.ok.inj h
          exact allSound_reverse.mpr hnodes
      | cons entry outer => cases h
  | cons piece pieces ih =>
      obtain ⟨hpiece, hmore⟩ := List.forall_mem_cons.mp hpieces
      cases piece with
      | text s =>
          have hs : s ≠ "" := fun heq => hpiece (by rw [heq])
          have htext : AllSound (Node.allElements (.text s :: nodes)) :=
            allSound_append.mpr ⟨allSound_cons.mpr ⟨hs, allSound_nil⟩, hnodes⟩
          rw [assemble_text] at h
          exact ih hblocks htext hmore h
      | action body line =>
          rw [assemble_action] at h
          split at h
          · cases h
          · rename_i a ha
            obtain ⟨state, hstate, hrest⟩ := exists_of_bind_ok h
            obtain ⟨hblocks', hnodes'⟩ := sound_of_advance (sound_of_read ha) hblocks hnodes hstate
            exact ih hblocks' hnodes' hmore hrest

/-- Everything in a tree that was read is sound. -/
theorem sound_of_parse {source : String} {nodes : List Node} (h : parse source = .ok nodes) :
    AllSound (Node.allElements nodes) := by
  obtain ⟨pieces, hscan, hassemble⟩ := exists_of_bind_ok h
  have hnone : AllSound (Node.allElements []) := allSound_nil
  exact sound_of_assemble (List.forall_mem_nil _) hnone (scanFrom_texts hscan) hassemble

end Cohort.Template
