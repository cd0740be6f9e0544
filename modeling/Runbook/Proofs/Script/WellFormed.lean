import Mathlib.Data.List.Count
import Runbook.Proofs.Script.Nesting

/-! # Well-formed outlines

The blocks of an outline are known by their places in one list, and refer to each other in
two ways: a block to its parent, and the parent, by one of its entries, to the block. Placing
a line adds a line to a block that is open, or adds a block behind all others together with
the entry that refers to it. Both keep the two ways in step. It matters that whatever was
placed last is a line: that is why a block never stands next to another one.
-/

namespace Runbook.Script

open Layout (innermost)

/-! ## Parents and entries -/

/-- What holds of the blocks of an outline. The index of a block is its place in the list. -/
structure Arena (blocks : List Block) : Prop where
  root : ∃ entries, blocks[0]? = some ⟨none, 0, entries⟩
  inside {index : Nat} {block : Block} (nested : 0 < index)
    (found : blocks[index]? = some block) :
    ∃ parent outer, block.parent = some parent ∧ parent < index ∧
      blocks[parent]? = some outer ∧ outer.indentation < block.indentation
  /-- A block is an entry of its parent once, and of no other block. -/
  once {holder : Nat} {block : Block} (found : blocks[holder]? = some block) (index : Nat) :
    block.entries.count (.block index) =
      if Outline.parent? ⟨blocks⟩ index = some holder then 1 else 0
  started {holder : Nat} {block : Block} (nested : 0 < holder)
    (found : blocks[holder]? = some block) :
    ∃ text rest, block.entries = .line text :: rest
  /-- A block stands directly after a line, or is what the root starts with. -/
  place {holder index : Nat} {block : Block} {before after : List Entry}
    (found : blocks[holder]? = some block)
    (parts : block.entries = before ++ .block index :: after) :
    (∃ earlier text, before = earlier ++ [.line text]) ∨ (holder = 0 ∧ before = [])

/-- Where an entry stands once another one has been added at the end. -/
theorem concat_eq_append_cons {entries before after : List Entry} {added entry : Entry}
    (parts : entries ++ [added] = before ++ entry :: after) :
    (entry = added ∧ before = entries) ∨ ∃ rest, entries = before ++ entry :: rest := by
  rcases List.eq_nil_or_concat after with rfl | ⟨rest, last, rfl⟩
  · have same := List.append_inj' parts rfl
    exact .inl ⟨(List.singleton_inj.mp same.2).symm, same.1.symm⟩
  · have same : entries ++ [added] = (before ++ entry :: rest) ++ [last] := by simpa using parts
    exact .inr ⟨rest, (List.append_inj' same rfl).1⟩

section Adding

variable {blocks : List Block} {target index : Nat} {entry : Entry} {block : Block}

/-- A block to which an entry may have been added, and what it was before. -/
structure Grown (target index : Nat) (entry : Entry) (before after : Block) : Prop where
  parent : after.parent = before.parent
  indentation : after.indentation = before.indentation
  entries : after.entries = before.entries ++ if target = index then [entry] else []

theorem exists_grown_of_append
    (found : (Layout.append blocks target entry)[index]? = some block) :
    ∃ before, blocks[index]? = some before ∧ Grown target index entry before block := by
  by_cases same : target = index
  · subst same
    rcases List.getElem?_eq_some_iff.mp found with ⟨within, -⟩
    rw [length_append] at within
    have old := List.getElem?_eq_getElem within
    rw [getElem?_append_same old] at found
    cases found
    exact ⟨_, old, rfl, rfl, by rw [if_pos rfl]⟩
  · rw [getElem?_append_other same] at found
    exact ⟨block, found, rfl, rfl, by rw [if_neg same, List.append_nil]⟩

theorem exists_append_of_found (target : Nat) (entry : Entry)
    (found : blocks[index]? = some block) :
    ∃ after, (Layout.append blocks target entry)[index]? = some after ∧
      Grown target index entry block after := by
  have within : index < (Layout.append blocks target entry).length := by
    rw [length_append]
    exact (List.getElem?_eq_some_iff.mp found).1
  have grown := List.getElem?_eq_getElem within
  rcases exists_grown_of_append grown with ⟨before, old, grows⟩
  cases old.symm.trans found
  exact ⟨_, grown, grows⟩

theorem parent?_append (index : Nat) :
    Outline.parent? ⟨Layout.append blocks target entry⟩ index = Outline.parent? ⟨blocks⟩ index := by
  simp only [Outline.parent?, Layout.append, List.getElem?_modify]
  cases blocks[index]? with
  | none => rfl
  | some block => by_cases same : target = index <;> simp [same]

/-- The blocks once another one has been opened in `target`, with one line in it. -/
def opened (blocks : List Block) (target width : Nat) (text : String) : List Block :=
  Layout.append blocks target (.block blocks.length) ++ [⟨some target, width, [.line text]⟩]

theorem getElem?_opened_length (blocks : List Block) (target width : Nat) (text : String) :
    (opened blocks target width text)[blocks.length]? =
      some ⟨some target, width, [.line text]⟩ := by
  rw [opened, List.getElem?_append_right (by simp), length_append, Nat.sub_self]
  rfl

theorem getElem?_opened_of_lt {width : Nat} {text : String} (within : index < blocks.length) :
    (opened blocks target width text)[index]? =
      (Layout.append blocks target (.block blocks.length))[index]? :=
  List.getElem?_append_left (by rwa [length_append])

/-- A block is the one that has been opened, or was there before. -/
theorem eq_or_exists_grown_of_opened {width : Nat} {text : String}
    (found : (opened blocks target width text)[index]? = some block) :
    index = blocks.length ∧ block = ⟨some target, width, [.line text]⟩ ∨
      ∃ before, blocks[index]? = some before ∧
        Grown target index (.block blocks.length) before block := by
  rcases Nat.lt_trichotomy index blocks.length with within | rfl | beyond
  · rw [getElem?_opened_of_lt within] at found
    exact .inr (exists_grown_of_append found)
  · rw [getElem?_opened_length] at found
    exact .inl ⟨rfl, (Option.some.inj found).symm⟩
  · have size := (List.getElem?_eq_some_iff.mp found).1
    simp only [opened, List.length_append, length_append, List.length_singleton] at size
    omega

theorem exists_opened_of_found (target width : Nat) (text : String)
    (found : blocks[index]? = some block) :
    ∃ after, (opened blocks target width text)[index]? = some after ∧
      Grown target index (.block blocks.length) block after := by
  rw [getElem?_opened_of_lt (List.getElem?_eq_some_iff.mp found).1]
  exact exists_append_of_found target _ found

theorem parent?_opened (target width : Nat) (text : String) (index : Nat) :
    Outline.parent? ⟨opened blocks target width text⟩ index =
      if index = blocks.length then some target else Outline.parent? ⟨blocks⟩ index := by
  split
  · rename_i new
    rw [new, Outline.parent?, getElem?_opened_length]
    rfl
  · rename_i old
    have kept :
        Outline.parent? ⟨Layout.append blocks target (.block blocks.length)⟩ index =
          Outline.parent? ⟨blocks⟩ index := parent?_append index
    rw [← kept]
    rcases Nat.lt_or_gt_of_ne old with within | beyond
    · rw [Outline.parent?, Outline.parent?, getElem?_opened_of_lt within]
    · rw [Outline.parent?, Outline.parent?, List.getElem?_eq_none, List.getElem?_eq_none]
      · rw [length_append]
        omega
      · simp only [opened, List.length_append, length_append, List.length_singleton]
        omega

end Adding

namespace Arena

variable {blocks : List Block}

theorem exists_parent?_iff (arena : Arena blocks) {index : Nat} :
    (∃ parent, Outline.parent? ⟨blocks⟩ index = some parent) ↔
      0 < index ∧ index < blocks.length := by
  constructor
  · rintro ⟨parent, inside⟩
    rcases Option.bind_eq_some_iff.mp inside with ⟨block, found, inner⟩
    refine ⟨Nat.pos_of_ne_zero ?_, (List.getElem?_eq_some_iff.mp found).1⟩
    rintro rfl
    rcases arena.root with ⟨entries, root⟩
    cases root.symm.trans found
    contradiction
  · rintro ⟨nested, within⟩
    have found := List.getElem?_eq_getElem within
    rcases arena.inside nested found with ⟨parent, -, inner, -⟩
    exact ⟨parent, by rw [Outline.parent?, found, Option.bind_some, inner]⟩

theorem parent?_lt (arena : Arena blocks) {index parent : Nat}
    (inside : Outline.parent? ⟨blocks⟩ index = some parent) :
    parent < index ∧ index < blocks.length := by
  rcases arena.exists_parent?_iff.mp ⟨parent, inside⟩ with ⟨nested, within⟩
  rcases Option.bind_eq_some_iff.mp inside with ⟨block, found, inner⟩
  rcases arena.inside nested found with ⟨other, -, same, earlier, -⟩
  cases inner.symm.trans same
  exact ⟨earlier, within⟩

/-- Blocks stay well-formed when a line is added to one of them. -/
theorem addLine (arena : Arena blocks) (target : Nat) (text : String) :
    Arena (Layout.append blocks target (.line text)) where
  root := by
    rcases arena.root with ⟨entries, found⟩
    rcases exists_append_of_found target (.line text) found with
      ⟨⟨_, _, entries⟩, after, rfl, rfl, -⟩
    exact ⟨entries, after⟩
  inside := by
    intro index block nested found
    rcases exists_grown_of_append found with ⟨before, old, grown⟩
    rcases arena.inside nested old with ⟨parent, outer, inner, earlier, around, deeper⟩
    rcases exists_append_of_found target (.line text) around with ⟨after, kept, outerGrown⟩
    refine ⟨parent, after, grown.parent.trans inner, earlier, kept, ?_⟩
    rwa [outerGrown.indentation, grown.indentation]
  once := by
    intro holder block found index
    rcases exists_grown_of_append found with ⟨before, old, grown⟩
    rw [parent?_append, ← arena.once old index, grown.entries, List.count_append]
    split <;> simp
  started := by
    intro holder block nested found
    rcases exists_grown_of_append found with ⟨before, old, grown⟩
    rcases arena.started nested old with ⟨first, rest, entries⟩
    rw [grown.entries, entries]
    exact ⟨first, _, List.cons_append⟩
  place := by
    intro holder index block before after found parts
    rcases exists_grown_of_append found with ⟨former, old, grown⟩
    rw [grown.entries] at parts
    split at parts
    · rcases concat_eq_append_cons parts with ⟨line, -⟩ | ⟨rest, parts⟩
      · cases line
      · exact arena.place old parts
    · rw [List.append_nil] at parts
      exact arena.place old parts

/-- Blocks stay well-formed when one more is opened, unless its parent ends in a block. -/
theorem openBlock (arena : Arena blocks) {target width : Nat} {current : Block}
    (found : blocks[target]? = some current) (deeper : current.indentation < width)
    (ready : (∃ earlier text, current.entries = earlier ++ [.line text]) ∨
      (target = 0 ∧ current.entries = [])) (text : String) :
    Arena (opened blocks target width text) where
  root := by
    rcases arena.root with ⟨entries, found⟩
    rcases exists_opened_of_found target width text found with
      ⟨⟨_, _, entries⟩, after, rfl, rfl, -⟩
    exact ⟨entries, after⟩
  inside := by
    intro index block nested member
    rcases eq_or_exists_grown_of_opened member with ⟨rfl, rfl⟩ | ⟨before, old, grown⟩
    · rcases exists_opened_of_found target width text found with ⟨after, kept, outerGrown⟩
      refine ⟨target, after, rfl, (List.getElem?_eq_some_iff.mp found).1, kept, ?_⟩
      rwa [outerGrown.indentation]
    · rcases arena.inside nested old with ⟨parent, outer, inner, earlier, around, narrower⟩
      rcases exists_opened_of_found target width text around with ⟨after, kept, outerGrown⟩
      refine ⟨parent, after, grown.parent.trans inner, earlier, kept, ?_⟩
      rwa [outerGrown.indentation, grown.indentation]
  once := by
    intro holder block member index
    rw [parent?_opened]
    rcases eq_or_exists_grown_of_opened member with ⟨rfl, rfl⟩ | ⟨before, old, grown⟩
    · have within := (List.getElem?_eq_some_iff.mp found).1
      rw [if_neg]
      · rfl
      · split
        · intro same
          cases same
          omega
        · intro inside
          have earlier := arena.parent?_lt inside
          omega
    · rw [grown.entries, List.count_append, arena.once old index]
      by_cases new : index = blocks.length
      · have unknown : Outline.parent? ⟨blocks⟩ blocks.length = none := by simp [Outline.parent?]
        rw [new, unknown, if_pos rfl]
        by_cases same : target = holder <;> simp [same]
      · rw [if_neg new]
        by_cases same : target = holder <;> simp [same, Ne.symm new]
  started := by
    intro holder block nested member
    rcases eq_or_exists_grown_of_opened member with ⟨rfl, rfl⟩ | ⟨before, old, grown⟩
    · exact ⟨text, [], rfl⟩
    · rcases arena.started nested old with ⟨first, rest, entries⟩
      rw [grown.entries, entries]
      exact ⟨first, _, List.cons_append⟩
  place := by
    intro holder index block before after member parts
    rcases eq_or_exists_grown_of_opened member with ⟨rfl, rfl⟩ | ⟨former, old, grown⟩
    · have inside : Entry.block index ∈ [Entry.line text] := by
        rw [show [Entry.line text] = before ++ .block index :: after from parts]
        exact List.mem_append_cons_self
      cases List.mem_singleton.mp inside
    · rw [grown.entries] at parts
      split at parts
      · rename_i same
        subst same
        cases old.symm.trans found
        rcases concat_eq_append_cons parts with ⟨-, rfl⟩ | ⟨rest, parts⟩
        · exact ready
        · exact arena.place found parts
      · rw [List.append_nil] at parts
        exact arena.place old parts

end Arena

/-! ## Open blocks -/

/-- Each open block stands in the one that is open around it, the outermost in the root. -/
inductive OpenChain (blocks : List Block) : List OpenBlock → Prop
  | root : OpenChain blocks []
  | nested {block : OpenBlock} {outer : List OpenBlock} {entries : List Entry}
      (found : blocks[block.index]? =
        some ⟨some (innermost outer).index, block.indentation, entries⟩)
      (around : OpenChain blocks outer) : OpenChain blocks (block :: outer)

namespace OpenChain

variable {blocks : List Block} {nested : List OpenBlock}

theorem dropWhile (chain : OpenChain blocks nested) (closes : OpenBlock → Bool) :
    OpenChain blocks (nested.dropWhile closes) := by
  induction chain with
  | root => exact .root
  | nested found around induction =>
      rw [List.dropWhile_cons]
      split
      · exact induction
      · exact .nested found around

theorem step {layout placed : Layout} {width : Nat} {text : String}
    (chain : OpenChain layout.blocks nested) (step : Step layout width text placed) :
    OpenChain placed.blocks nested := by
  induction chain with
  | root => exact .root
  | nested found _ induction =>
      rcases step.getElem? found with ⟨entries, kept⟩
      exact .nested kept induction

/-- The innermost open block is one of the blocks, and as wide as it is known to be. -/
theorem exists_innermost (chain : OpenChain blocks nested) (arena : Arena blocks) :
    ∃ block, blocks[(innermost nested).index]? = some block ∧
      block.indentation = (innermost nested).indentation := by
  cases chain with
  | root =>
      rcases arena.root with ⟨entries, found⟩
      exact ⟨_, found, rfl⟩
  | nested found _ => exact ⟨_, found, rfl⟩

end OpenChain

/-- What was placed last is a line in the innermost open block, if there is one at all. -/
def Layout.EndsInLine (layout : Layout) : Prop :=
  ∃ block, layout.blocks[(innermost layout.nested).index]? = some block ∧
    ((∃ earlier text, block.entries = earlier ++ [.line text]) ∨
      ((innermost layout.nested).index = 0 ∧ block.entries = []))

/-- What every line leaves as it is: parents and entries agree, the blocks that are open
are known, and the next line may open a block. -/
structure Layout.InStep (layout : Layout) : Prop where
  arena : Arena layout.blocks
  chain : OpenChain layout.blocks layout.nested
  ends : layout.EndsInLine

theorem eq_root_of_getElem?_empty {index : Nat} {block : Block}
    (found : Layout.empty.blocks[index]? = some block) : index = 0 ∧ block = ⟨none, 0, []⟩ := by
  rw [Layout.empty, List.getElem?_singleton] at found
  split at found
  · rename_i first
    exact ⟨first, (Option.some.inj found).symm⟩
  · contradiction

theorem arena_empty : Arena Layout.empty.blocks where
  root := ⟨[], rfl⟩
  inside nested found := absurd (eq_root_of_getElem?_empty found).1 (by omega)
  started nested found := absurd (eq_root_of_getElem?_empty found).1 (by omega)
  once := by
    intro holder block found index
    rcases eq_root_of_getElem?_empty found with ⟨-, rfl⟩
    rw [if_neg]
    · rfl
    · intro inside
      rcases Option.bind_eq_some_iff.mp inside with ⟨other, again, parent⟩
      rw [(eq_root_of_getElem?_empty again).2] at parent
      contradiction
  place := by
    intro holder index block before after found parts
    rw [(eq_root_of_getElem?_empty found).2] at parts
    exact absurd parts (by simp)

/-- A line leaves a layout in step. -/
theorem Step.inStep {layout placed : Layout} {width : Nat} {text : String}
    (step : Step layout width text placed) (before : layout.InStep) : placed.InStep := by
  have kept := before.chain.step step
  cases step with
  | @beside nested closed fits =>
      have chain := closed ▸ before.chain.dropWhile _
      rcases chain.exists_innermost before.arena with ⟨block, found, -⟩
      rcases exists_append_of_found (innermost nested).index (.line text) found with
        ⟨after, added, grown⟩
      refine ⟨before.arena.addLine _ text, closed ▸ kept.dropWhile _, after, added, .inl ?_⟩
      rw [grown.entries, if_pos rfl]
      exact ⟨_, text, rfl⟩
  | below deeper =>
      rcases before.ends with ⟨block, found, ready⟩
      rcases before.chain.exists_innermost before.arena with ⟨same, again, wide⟩
      cases found.symm.trans again
      exact ⟨before.arena.openBlock found (wide ▸ deeper) ready text,
        .nested (getElem?_opened_length layout.blocks _ width text) kept,
        _, getElem?_opened_length layout.blocks _ width text, .inl ⟨[], text, rfl⟩⟩

theorem Reads.inStep {history : List Placement} {layout : Layout} (read : Reads history layout) :
    layout.InStep := by
  induction read with
  | start => exact ⟨arena_empty, .root, _, rfl, .inr ⟨rfl, rfl⟩⟩
  | step _ step induction => exact step.inStep induction

/-! ## Depth-first order -/

namespace Outline

/-- A block and the blocks below it, nested at most `fuel` deep, as they are met on a walk
that enters each block where it stands. -/
def blocksWithin (outline : Outline) : (fuel index : Nat) → List Nat
  | 0, _ => []
  | fuel + 1, index =>
      index :: (((outline.blocks[index]?).map (·.entries)).getD []).flatMap fun
        | .line _ => []
        | .block nested => outline.blocksWithin fuel nested

/-- The blocks of an outline in the order in which a walk from the root meets them. -/
def walk (outline : Outline) : List Nat := outline.blocksWithin outline.blocks.length 0

/-- The blocks that an entry of a block stands for. -/
def entryBlocks (outline : Outline) (fuel : Nat) : Entry → List Nat
  | .line _ => []
  | .block nested => outline.blocksWithin fuel nested

theorem blocksWithin_succ {outline : Outline} {index : Nat} {block : Block}
    (found : outline.blocks[index]? = some block) (fuel : Nat) :
    outline.blocksWithin (fuel + 1) index =
      index :: block.entries.flatMap (outline.entryBlocks fuel) := by
  rw [blocksWithin, found]
  exact congrArg (index :: ·) (List.flatMap_congr fun entry _ => by cases entry <;> rfl)

end Outline

/-- With enough fuel a walk meets exactly the blocks of the range, in their order. -/
theorem Spans.flatMap_entryBlocks {blocks : List Block} {holder first last : Nat}
    {entries : List Entry} {lines : List HeldLine}
    (spans : Spans blocks holder first last entries lines) {fuel : Nat}
    (enough : last - first ≤ fuel) :
    entries.flatMap (Outline.entryBlocks ⟨blocks⟩ fuel) = List.range' first (last - first) := by
  induction spans generalizing fuel with
  | nil => simp
  | line _ induction => rw [List.flatMap_cons, induction enough]; rfl
  | @block holder first middle last _ inner _ _ _ found nested rest insideInduction restInduction =>
      have nestedLe := nested.le
      have restLe := rest.le
      cases fuel with
      | zero => omega
      | succ fuel =>
          have insideEnough : middle - (first + 1) ≤ fuel := by omega
          have restEnough : last - middle ≤ fuel + 1 := by omega
          have entered : Outline.blocksWithin ⟨blocks⟩ (fuel + 1) first =
              first :: inner.flatMap (Outline.entryBlocks ⟨blocks⟩ fuel) :=
            Outline.blocksWithin_succ found fuel
          calc (Entry.block first :: _).flatMap (Outline.entryBlocks ⟨blocks⟩ (fuel + 1))
              = first :: List.range' (first + 1) (middle - (first + 1)) ++
                  List.range' middle (last - middle) := by
                rw [List.flatMap_cons, restInduction restEnough, Outline.entryBlocks, entered,
                  insideInduction insideEnough]
            _ = List.range' first (middle - first) ++ List.range' middle (last - middle) := by
                rw [← List.range'_succ, show middle - (first + 1) + 1 = middle - first by omega]
            _ = List.range' first (last - first) := by
                have parts := List.range'_append_1 (s := first) (m := middle - first)
                  (n := last - middle)
                rwa [show first + (middle - first) = middle by omega,
                  show middle - first + (last - middle) = last - first by omega] at parts

theorem Growing.walk_eq {blocks : List Block} {lines : List HeldLine} {nested : List OpenBlock}
    (growing : Growing blocks blocks.length [] lines nested) :
    Outline.walk ⟨blocks⟩ = List.range blocks.length := by
  cases growing.closeAll with
  | @root _ entries _ _ found spans =>
      have positive : 0 < blocks.length := (List.getElem?_eq_some_iff.mp found).1
      rcases Nat.exists_eq_add_one.mpr positive with ⟨fuel, size⟩
      have enough : blocks.length - 1 ≤ fuel := by omega
      rw [Outline.walk, size, Outline.blocksWithin_succ found, List.append_nil,
        spans.flatMap_entryBlocks enough, size, List.range_eq_range', List.range'_succ]
      rfl

/-! ## Levels and depths -/

/-- How many blocks are entered on the way from the root down to a block. -/
inductive AtDepth (blocks : List Block) : (index depth : Nat) → Prop
  | root : AtDepth blocks 0 0
  | nested {holder index depth : Nat} {block : Block} (above : AtDepth blocks holder depth)
      (found : blocks[holder]? = some block) (member : .block index ∈ block.entries) :
      AtDepth blocks index (depth + 1)

namespace Arena

variable {blocks : List Block}

theorem parent?_of_mem (arena : Arena blocks) {holder index : Nat} {block : Block}
    (found : blocks[holder]? = some block) (member : .block index ∈ block.entries) :
    Outline.parent? ⟨blocks⟩ index = some holder := by
  have count := arena.once found index
  have positive := List.count_pos_iff.mpr member
  by_contra other
  rw [if_neg other] at count
  omega

theorem mem_of_parent? (arena : Arena blocks) {holder index : Nat} {block : Block}
    (found : blocks[holder]? = some block)
    (inside : Outline.parent? ⟨blocks⟩ index = some holder) : .block index ∈ block.entries := by
  have count := arena.once found index
  rw [if_pos inside] at count
  exact List.count_pos_iff.mp (by omega)

theorem exists_atLevel (arena : Arena blocks) {index : Nat} (within : index < blocks.length) :
    ∃ level, AtLevel blocks index level := by
  induction index using Nat.strongRecOn with
  | ind index induction =>
      rcases Nat.eq_zero_or_pos index with rfl | nested
      · rcases arena.root with ⟨entries, found⟩
        exact ⟨0, .root found rfl⟩
      · have found := List.getElem?_eq_getElem within
        rcases arena.inside nested found with ⟨parent, -, inner, earlier, -⟩
        rcases induction parent earlier (by omega) with ⟨level, above⟩
        exact ⟨level + 1, .nested found inner earlier above⟩

/-- The way up by parents is the way down by entries. -/
theorem atDepth_iff_atLevel (arena : Arena blocks) {index depth : Nat} :
    AtDepth blocks index depth ↔ AtLevel blocks index depth := by
  constructor
  · intro atDepth
    induction atDepth with
    | root =>
        rcases arena.root with ⟨entries, found⟩
        exact .root found rfl
    | nested _ found member induction =>
        have inside := arena.parent?_of_mem found member
        rcases Option.bind_eq_some_iff.mp inside with ⟨inner, entered, parent⟩
        exact .nested entered parent (arena.parent?_lt inside).1 induction
  · intro atLevel
    induction atLevel with
    | @root index block found top =>
        rcases Nat.eq_zero_or_pos index with rfl | nested
        · exact .root
        · rcases arena.inside nested found with ⟨parent, -, inner, -⟩
          rw [top] at inner
          contradiction
    | @nested index parent level block found inside earlier above induction =>
        have around := List.getElem?_eq_getElem above.lt_length
        have known : Outline.parent? ⟨blocks⟩ index = some parent := by
          rw [Outline.parent?, found, Option.bind_some, inside]
        exact .nested induction around (arena.mem_of_parent? around known)

/-- No two blocks stand next to each other. -/
theorem apart (arena : Arena blocks) {holder first second : Nat} {block : Block}
    {before after : List Entry} (found : blocks[holder]? = some block) :
    block.entries ≠ before ++ .block first :: .block second :: after := by
  intro parts
  have shape : block.entries = (before ++ [.block first]) ++ .block second :: after := by
    rw [parts, List.append_assoc]
    rfl
  rcases arena.place found shape with ⟨earlier, text, same⟩ | ⟨-, empty⟩
  · cases (List.append_inj' same rfl).2
  · simp at empty

end Arena

/-! ## All together -/

/-- An outline whose blocks agree on which of them stands in which, in depth-first order, and
the levels of which are depths: following parents from a block ends at the root after as many
steps as its level says, and this is how deep it is entered. -/
structure Outline.WellFormed (outline : Outline) : Prop extends Arena outline.blocks where
  apart {holder first second : Nat} {block : Block} {before after : List Entry}
    (found : outline.blocks[holder]? = some block) :
    block.entries ≠ before ++ .block first :: .block second :: after
  walk_eq : outline.walk = List.range outline.blocks.length
  ends {index : Nat} (within : index < outline.blocks.length) :
    AtLevel outline.blocks index (outline.level index)
  deep {index : Nat} (within : index < outline.blocks.length) (depth : Nat) :
    AtDepth outline.blocks index depth ↔ outline.level index = depth

theorem Reads.wellFormed {history : List Placement} {layout : Layout}
    (read : Reads history layout) : layout.outline.WellFormed where
  toArena := read.inStep.arena
  apart := read.inStep.arena.apart
  walk_eq := read.growing.walk_eq
  ends within := by
    rcases read.inStep.arena.exists_atLevel within with ⟨level, atLevel⟩
    exact atLevel.level_eq ▸ atLevel
  deep within depth := by
    rcases read.inStep.arena.exists_atLevel within with ⟨level, atLevel⟩
    refine read.inStep.arena.atDepth_iff_atLevel.trans ⟨fun deep => deep.level_eq, ?_⟩
    rintro rfl
    exact atLevel.level_eq ▸ atLevel

/-- After each line that is placed, and so in every outline that is read, the blocks are
well-formed, and the open ones lead from the innermost one to the root. -/
theorem wellFormed_throughout (lines : List (List Char)) :
    (∀ before after layout, logicalLines lines = before ++ after →
      before.foldlM Layout.place Layout.empty = .ok layout →
        layout.outline.WellFormed ∧ OpenChain layout.blocks layout.nested) ∧
    ∀ outline, ofLines lines = .ok outline → outline.WellFormed := by
  refine ⟨fun before after layout _ placed => ?_, fun outline read => ?_⟩
  · rcases reads_of_foldlM .start placed with ⟨added, reads, -⟩
    exact ⟨reads.wellFormed, reads.inStep.chain⟩
  · rcases reads_of_ofLines read with ⟨layout, added, rfl, reads, -⟩
    exact reads.wellFormed

/-- A script that starts with an indented line and has two blocks at the same width. -/
def sinkingLines : List (List Char) :=
  [[' ', 'a'], [' ', ' ', ' ', 'b'], ['c'], ['\t', 'd']]

/-- The layout of its first two lines. -/
def sinkingLayout : Layout where
  blocks := [⟨none, 0, [.block 1]⟩, ⟨some 0, 1, [.line "a", .block 2]⟩,
    ⟨some 1, 3, [.line "b"]⟩]
  nested := [⟨2, 3⟩, ⟨1, 1⟩]

def sinkingOutline : Outline where
  blocks := [⟨none, 0, [.block 1, .line "c", .block 3]⟩, ⟨some 0, 1, [.line "a", .block 2]⟩,
    ⟨some 1, 3, [.line "b"]⟩, ⟨some 0, 1, [.line "d"]⟩]

theorem wellFormed_throughout_sinking :
    ((logicalLines sinkingLines).take 2).foldlM Layout.place Layout.empty = .ok sinkingLayout ∧
      sinkingLayout.outline.WellFormed ∧
      OpenChain sinkingLayout.blocks sinkingLayout.nested ∧
      ofLines sinkingLines = .ok sinkingOutline ∧ sinkingOutline.WellFormed := by
  have first : ((logicalLines sinkingLines).take 2).foldlM Layout.place Layout.empty =
      .ok sinkingLayout := rfl
  have read : ofLines sinkingLines = .ok sinkingOutline := rfl
  rcases (wellFormed_throughout sinkingLines).1 _ _ _ (List.take_append_drop 2 _).symm first with
    ⟨outline, chain⟩
  exact ⟨first, outline, chain, read, (wellFormed_throughout sinkingLines).2 _ read⟩

end Runbook.Script
