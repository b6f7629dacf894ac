import ApiReview.Node.Graph
import ApiReview.Proofs.Outcome

/-! Graphs that differ in the numbers of their cells alone. Lists and objects that can
be reached stand for each other one to one, so that they are shared at the same places
in both. Scalars are never changed, and it does not matter where they are shared. No
number is ever shown. -/

set_option autoImplicit false

namespace ApiReview

section Shapes

variable {First Second : Type} {related wider : First → Second → Prop}

def Members.Paired (related : First → Second → Prop) (member : Key × First) (other : Key × Second) :
    Prop :=
  member.1 = other.1 ∧ related member.2 other.2

theorem Members.keys_of_paired {members : List (Key × First)} {others : List (Key × Second)}
    (aligned : List.Forall₂ (Members.Paired related) members others) :
    members.map (·.1) = others.map (·.1) :=
  List.forall₂_eq_eq_eq ▸ List.rel_map (fun _ _ pair => pair.1) aligned

theorem Members.values_of_paired {members : List (Key × First)} {others : List (Key × Second)}
    (aligned : List.Forall₂ (Members.Paired related) members others) :
    List.Forall₂ related (members.map (·.2)) (others.map (·.2)) :=
  List.rel_map (fun _ _ pair => pair.2) aligned

/-- Two shapes are the same but for their parts, which are related in order. -/
inductive Shape.Matches (related : First → Second → Prop) : Shape First → Shape Second → Prop where
  | scalar (value : Node) : Matches related (.scalar value) (.scalar value)
  | list {items : List First} {others : List Second} :
      List.Forall₂ related items others → Matches related (.list items) (.list others)
  | object {members : List (Key × First)} {others : List (Key × Second)} :
      List.Forall₂ (Members.Paired related) members others →
      Matches related (.object members) (.object others)

theorem Shape.Matches.mono (widens : ∀ first second, related first second → wider first second)
    {shape : Shape First} {other : Shape Second} (same : shape.Matches related other) :
    shape.Matches wider other := by
  cases same with
  | scalar value => exact .scalar value
  | list items => exact .list (items.imp widens)
  | object members => exact .object (members.imp fun _ _ pair => ⟨pair.1, widens _ _ pair.2⟩)

theorem Shape.matches_self {related : First → First → Prop} {shape : Shape First}
    (parts : ∀ part ∈ shape.children, related part part) : shape.Matches related shape := by
  cases shape with
  | scalar value => exact .scalar value
  | list items => exact .list (List.forall₂_same.mpr parts)
  | object members =>
      refine .object (List.forall₂_same.mpr fun member among => ⟨rfl, parts _ ?_⟩)
      exact List.mem_map_of_mem among

def Shape.IsCompound : Shape First → Prop
  | .scalar _ => False
  | _ => True

theorem Shape.Matches.isCompound {shape : Shape First} {other : Shape Second}
    (same : shape.Matches related other) (compound : shape.IsCompound) : other.IsCompound := by
  cases same with
  | scalar value => cases compound
  | list items => trivial
  | object members => trivial

end Shapes

namespace Graph

variable {left right other : Graph} {related : Nat → Nat → Prop} {number first second : Nat}
  {cell : Shape Nat}

/-! ## Cells of a changed graph -/

theorem cell_push_self : (left.push cell).1.cell left.cells.size = cell := by
  simp [Graph.cell, push]

theorem cell_push (within : number < left.cells.size) :
    (left.push cell).1.cell number = left.cell number := by
  have before : number ≠ left.cells.size := Nat.ne_of_lt within
  simp [Graph.cell, push, Array.getD_eq_getD_getElem?, Array.getElem?_push, before]

theorem cell_set_self (within : number < left.cells.size) :
    (left.set number cell).cell number = cell := by
  simp [Graph.cell, set, Array.getD_eq_getD_getElem?, within]

theorem cell_set_ne (different : first ≠ number) :
    (left.set number cell).cell first = left.cell first := by
  simp [Graph.cell, set, Array.getD_eq_getD_getElem?, different.symm]

theorem size_set : (left.set number cell).cells.size = left.cells.size := by simp [set]

/-! ## Renumberings -/

/-- Cells of two graphs stand for each other, the roots among them, with the same content but for
the numbers. Lists and objects do so one for one. -/
structure Renumbering (left right : Graph) (related : Nat → Nat → Prop) : Prop where
  root : related left.root right.root
  within : ∀ {first second}, related first second →
    first < left.cells.size ∧ second < right.cells.size
  cells : ∀ {first second}, related first second →
    (left.cell first).Matches related (right.cell second)
  forth : ∀ {first second other}, related first second → related first other →
    (left.cell first).IsCompound → second = other
  back : ∀ {first second other}, related first second → related other second →
    (right.cell second).IsCompound → first = other

/-- Two graphs differ in the numbers of their cells alone. -/
def Renumbered (left right : Graph) : Prop := ∃ related, Renumbering left right related

namespace Renumbering

theorem eq_iff (same : Renumbering left right related) {first second here there : Nat}
    (pair : related first second) (compound : (left.cell first).IsCompound)
    (other : related here there) : first = here ↔ second = there := by
  constructor
  · rintro rfl
    exact same.forth pair other compound
  · rintro rfl
    exact same.back pair other ((same.cells pair).isCompound compound)

theorem push {cell other : Shape Nat} (same : Renumbering left right related)
    (content : cell.Matches related other) :
    Renumbering (left.push cell).1 (right.push other).1 fun first second =>
      related first second ∨ first = left.cells.size ∧ second = right.cells.size where
  root := .inl same.root
  within := by
    rintro first second (pair | ⟨rfl, rfl⟩)
    · obtain ⟨before, behind⟩ := same.within pair
      simp only [Graph.push, Array.size_push]
      exact ⟨Nat.lt_succ_of_lt before, Nat.lt_succ_of_lt behind⟩
    · simp [Graph.push]
  cells := by
    rintro first second (pair | ⟨rfl, rfl⟩)
    · obtain ⟨before, behind⟩ := same.within pair
      rw [cell_push before, cell_push behind]
      exact (same.cells pair).mono fun _ _ => .inl
    · rw [cell_push_self, cell_push_self]
      exact content.mono fun _ _ => .inl
  forth := by
    rintro first second third (pair | ⟨rfl, rfl⟩) (further | ⟨outside, rfl⟩) compound
    · rw [cell_push (same.within pair).1] at compound
      exact same.forth pair further compound
    · exact absurd outside (Nat.ne_of_lt (same.within pair).1)
    · exact absurd rfl (Nat.ne_of_lt (same.within further).1)
    · rfl
  back := by
    rintro first second third (pair | ⟨rfl, rfl⟩) (further | ⟨rfl, outside⟩) compound
    · rw [cell_push (same.within pair).2] at compound
      exact same.back pair further compound
    · exact absurd outside (Nat.ne_of_lt (same.within pair).2)
    · exact absurd rfl (Nat.ne_of_lt (same.within further).2)
    · rfl

theorem set {cell other : Shape Nat} (same : Renumbering left right related)
    (pair : related first second) (compound : (left.cell first).IsCompound)
    (content : cell.Matches related other) :
    Renumbering (left.set first cell) (right.set second other) related where
  root := same.root
  within further := by
    rw [size_set, size_set]
    exact same.within further
  cells {here there} further := by
    -- A scalar may stand for several cells, but the cell that is set is no scalar.
    by_cases selected : first = here
    · obtain rfl := selected
      obtain rfl := same.forth pair further compound
      rw [cell_set_self (same.within pair).1, cell_set_self (same.within pair).2]
      exact content
    · have apart := mt (same.eq_iff pair compound further).mpr selected
      rw [cell_set_ne (Ne.symm selected), cell_set_ne (Ne.symm apart)]
      exact same.cells further
  forth {here there other} further another held := by
    by_cases selected : first = here
    · obtain rfl := selected
      exact same.forth further another compound
    · rw [cell_set_ne (Ne.symm selected)] at held
      exact same.forth further another held
  back {here there other} further another held := by
    by_cases selected : second = there
    · obtain rfl := selected
      exact same.back further another ((same.cells pair).isCompound compound)
    · rw [cell_set_ne (Ne.symm selected)] at held
      exact same.back further another held

theorem withRoot (same : Renumbering left right related) (pair : related first second) :
    Renumbering { left with root := first } { right with root := second } related :=
  { same with root := pair }

end Renumbering

structure Closed (graph : Graph) : Prop where
  root : graph.root < graph.cells.size
  parts : ∀ {number}, number < graph.cells.size →
    ∀ part ∈ (graph.cell number).children, part < graph.cells.size

/-! ## Inserted trees -/

/-- What two graphs are after the same insertion: cells stand for each other as before, and those
that came stand for each other as well. -/
structure Inserted (left right : Graph) (related wider : Nat → Nat → Prop) : Prop where
  keeps : ∀ first second, related first second → wider first second
  same : Renumbering left right wider

theorem Inserted.push {cell other : Shape Nat} {wider : Nat → Nat → Prop}
    (inserted : Inserted left right related wider) (content : cell.Matches wider other) :
    ∃ widest, Inserted (left.push cell).1 (right.push other).1 related widest ∧
      widest (left.push cell).2 (right.push other).2 :=
  ⟨_, ⟨fun first second pair => .inl (inserted.keeps first second pair),
    inserted.same.push content⟩, .inr ⟨rfl, rfl⟩⟩

mutual

theorem Renumbering.insert {left right : Graph} {related : Nat → Nat → Prop} (value : Node)
    (same : Renumbering left right related) :
    ∃ wider, Inserted (left.insert value).1 (right.insert value).1 related wider ∧
      wider (left.insert value).2 (right.insert value).2 := by
  cases value with
  | list items =>
      obtain ⟨wider, inserted, numbers⟩ := Renumbering.insertItems items same
      exact inserted.push (.list numbers)
  | object members =>
      obtain ⟨wider, inserted, numbers⟩ := Renumbering.insertMembers members same
      exact inserted.push (.object numbers)
  | _ => exact Inserted.push ⟨fun _ _ pair => pair, same⟩ (.scalar _)

theorem Renumbering.insertItems {left right : Graph} {related : Nat → Nat → Prop}
    (items : List Node) (same : Renumbering left right related) :
    ∃ wider, Inserted (left.insertItems items).1 (right.insertItems items).1 related wider ∧
      List.Forall₂ wider (left.insertItems items).2 (right.insertItems items).2 := by
  cases items with
  | nil => exact ⟨related, ⟨fun _ _ pair => pair, same⟩, .nil⟩
  | cons item rest =>
      obtain ⟨wider, inserted, number⟩ := Renumbering.insert item same
      obtain ⟨widest, later, numbers⟩ := Renumbering.insertItems rest inserted.same
      exact ⟨widest, ⟨fun first second pair => later.keeps _ _ (inserted.keeps _ _ pair),
        later.same⟩, .cons (later.keeps _ _ number) numbers⟩

theorem Renumbering.insertMembers {left right : Graph} {related : Nat → Nat → Prop}
    (members : List (Key × Node)) (same : Renumbering left right related) :
    ∃ wider, Inserted (left.insertMembers members).1 (right.insertMembers members).1 related wider ∧
      List.Forall₂ (Members.Paired wider) (left.insertMembers members).2
        (right.insertMembers members).2 := by
  match members with
  | [] => exact ⟨related, ⟨fun _ _ pair => pair, same⟩, .nil⟩
  | (key, value) :: rest =>
      obtain ⟨wider, inserted, number⟩ := Renumbering.insert value same
      obtain ⟨widest, later, numbers⟩ := Renumbering.insertMembers rest inserted.same
      exact ⟨widest, ⟨fun first second pair => later.keeps _ _ (inserted.keeps _ _ pair),
        later.same⟩, .cons ⟨rfl, later.keeps _ _ number⟩ numbers⟩

end

/-! ## What a graph shows -/

/-- The same trees are known of cells that stand for each other. -/
structure SameTrees (left right : Graph) (related : Nat → Nat → Prop) (known others : KnownTrees) :
    Prop where
  size : known.size = left.cells.size
  otherSize : others.size = right.cells.size
  trees : ∀ first second, related first second → known.getD first none = others.getD second none

/-- Two computations have the same result wherever they start from the same known trees, and know
the same trees in the end. -/
def Shows {Value : Type} (left right : Graph) (related : Nat → Nat → Prop)
    (program other : StateM KnownTrees Value) : Prop :=
  ∀ known others, SameTrees left right related known others →
    (program.run known).1 = (other.run others).1 ∧
      SameTrees left right related (program.run known).2 (other.run others).2

namespace Shows

variable {Value Result : Type} {program other : StateM KnownTrees Value}

theorem pure (value : Value) : Shows left right related (Pure.pure value) (Pure.pure value) :=
  fun _ _ same => ⟨rfl, same⟩

theorem bind {next further : Value → StateM KnownTrees Result}
    (shows : Shows left right related program other)
    (later : ∀ value, Shows left right related (next value) (further value)) :
    Shows left right related (program >>= next) (other >>= further) := by
  intro known others same
  obtain ⟨value, reached⟩ := shows known others same
  have step := later (program.run known).1 _ _ reached
  change ((next (program.run known).1).run (program.run known).2).1 =
      ((further (other.run others).1).run (other.run others).2).1 ∧
    SameTrees left right related ((next (program.run known).1).run (program.run known).2).2
      ((further (other.run others).1).run (other.run others).2).2
  rw [← value]
  exact step

theorem mapM {items others : List Nat} {step further : Nat → StateM KnownTrees Value}
    (aligned : List.Forall₂ related items others)
    (steps : ∀ first second, related first second →
      Shows left right related (step first) (further second)) :
    Shows left right related (items.mapM step) (others.mapM further) := by
  induction aligned with
  | nil => exact pure []
  | cons pair _ ih =>
      rw [List.mapM_cons, List.mapM_cons]
      exact (steps _ _ pair).bind fun value => ih.bind fun values => pure (value :: values)

end Shows

theorem Renumbering.note (same : Renumbering left right related) (pair : related first second)
    (compound : (left.cell first).IsCompound) (tree : Node) (isWhole : Bool) :
    Shows left right related (note first tree isWhole) (note second tree isWhole) := by
  intro known others trees
  cases isWhole with
  | false => exact ⟨rfl, trees⟩
  | true =>
      refine ⟨rfl, ?_, ?_, ?_⟩
      · exact Array.size_setIfInBounds.trans trees.size
      · exact Array.size_setIfInBounds.trans trees.otherSize
      · intro here there further
        change (known.setIfInBounds first (some tree)).getD here none =
          (others.setIfInBounds second (some tree)).getD there none
        have before := trees.trees here there further
        have noted : first < known.size := trees.size ▸ (same.within pair).1
        have otherNoted : second < others.size := trees.otherSize ▸ (same.within pair).2
        simp only [Array.getD_eq_getD_getElem?, Array.getElem?_setIfInBounds,
          same.eq_iff pair compound further, noted, otherNoted, if_true] at before ⊢
        split
        · rfl
        · exact before

structure Distinct (graph : Graph) (numbers : List Nat) : Prop where
  once : numbers.Nodup
  inside : ∀ number ∈ numbers, number < graph.cells.size

theorem Distinct.length_le {graph : Graph} {numbers : List Nat} (distinct : Distinct graph numbers) :
    numbers.length ≤ graph.cells.size := by
  have among : numbers ⊆ List.range graph.cells.size :=
    fun number present => List.mem_range.mpr (distinct.inside number present)
  simpa using (List.subperm_of_subset distinct.once among).length_le

theorem Distinct.cons {graph : Graph} {numbers : List Nat} (distinct : Distinct graph numbers)
    (inside : number < graph.cells.size) (fresh : numbers.contains number = false) :
    Distinct graph (number :: numbers) where
  once := by
    refine List.nodup_cons.mpr ⟨fun present => ?_, distinct.once⟩
    rw [← List.contains_iff_mem, fresh] at present
    cases present
  inside := List.forall_mem_cons.mpr ⟨inside, distinct.inside⟩

structure Around (left right : Graph) (related : Nat → Nat → Prop) (above others : List Nat) :
    Prop where
  aligned : List.Forall₂ related above others
  distinct : Distinct left above
  otherDistinct : Distinct right others

namespace Around

variable {above others : List Nat}

theorem contains_eq (around : Around left right related above others)
    (same : Renumbering left right related) (pair : related first second)
    (compound : (left.cell first).IsCompound) :
    above.contains first = others.contains second := by
  have aligned := around.aligned
  clear around
  induction aligned with
  | nil => rfl
  | cons further _ ih =>
      rw [List.contains_cons, List.contains_cons, ih, Bool.eq_iff_iff, Bool.or_eq_true,
        Bool.or_eq_true, beq_iff_eq, beq_iff_eq, same.eq_iff pair compound further]

theorem cons (around : Around left right related above others)
    (same : Renumbering left right related) (pair : related first second)
    (compound : (left.cell first).IsCompound) (fresh : others.contains second = false) :
    Around left right related (first :: above) (second :: others) where
  aligned := .cons pair around.aligned
  distinct :=
    around.distinct.cons (same.within pair).1
      ((around.contains_eq same pair compound).trans fresh)
  otherDistinct := around.otherDistinct.cons (same.within pair).2 fresh

end Around

/-- Below cells that stand for each other the same tree is shown, however far the limits lie above
what is needed. -/
theorem Renumbering.treeAt (same : Renumbering left right related) {limit bound : Nat}
    {above others : List Nat} (around : Around left right related above others)
    (enough : left.cells.size + 2 ≤ limit + above.length)
    (alsoEnough : right.cells.size + 2 ≤ bound + others.length) (pair : related first second) :
    Shows left right related (left.treeAt limit above first) (right.treeAt bound others second) := by
  -- The cells around are different ones, so that the limits do not run out.
  induction limit generalizing bound above others first second with
  | zero =>
      have few := around.distinct.length_le
      omega
  | succ limit ih =>
      obtain ⟨bound, rfl⟩ : ∃ lower, bound = lower + 1 := by
        have few := around.otherDistinct.length_le
        exact ⟨bound - 1, by omega⟩
      intro known knowns trees
      have noted := trees.trees first second pair
      have contents := same.cells pair
      -- Below a cell that is not yet open there is one more around, and one limit less.
      have below : (left.cell first).IsCompound → others.contains second = false →
          ∀ here there, related here there → Shows left right related
            (left.treeAt limit (first :: above) here) (right.treeAt bound (second :: others) there) := by
        intro compound fresh here there further
        refine ih (around.cons same pair compound fresh) ?_ ?_ further
        · rw [List.length_cons]
          omega
        · rw [List.length_cons]
          omega
      have isOpen := around.contains_eq same pair
      have note := same.note pair
      simp only [Graph.treeAt]
      rw [StateT.run_bind, StateT.run_bind, StateT.run_get, StateT.run_get, pure_bind, pure_bind]
      dsimp only
      rw [noted]
      generalize left.cell first = cell at contents below isOpen note ⊢
      generalize right.cell second = opposite at contents ⊢
      cases knowns.getD second none with
      | some tree => exact Shows.pure (tree, true) known knowns trees
      | none =>
          cases contents with
          | scalar value => exact Shows.pure (value, true) known knowns trees
          | list items =>
              rw [isOpen trivial]
              cases fresh : others.contains second with
              | true => exact Shows.pure (Node.list [], false) known knowns trees
              | false =>
                  exact ((Shows.mapM items (below trivial fresh)).bind fun shown =>
                    note trivial (.list (shown.map (·.1))) (shown.all (·.2))) known knowns trees
          | @object members twins aligned =>
              rw [isOpen trivial]
              cases fresh : others.contains second with
              | true => exact Shows.pure (Node.object [], false) known knowns trees
              | false =>
                  refine (Shows.mapM (Members.values_of_paired aligned) (below trivial fresh)).bind
                    (fun shown => ?_) known knowns trees
                  rw [Members.keys_of_paired aligned]
                  exact note trivial (.object ((twins.map (·.1)).zip (shown.map (·.1))))
                    (shown.all (·.2))

theorem Renumbering.toNode (same : Renumbering left right related) :
    left.toNode = right.toNode := by
  have around : Around left right related [] [] :=
    ⟨.nil, ⟨List.nodup_nil, by simp⟩, ⟨List.nodup_nil, by simp⟩⟩
  have unknown : SameTrees left right related (Array.replicate left.cells.size none)
      (Array.replicate right.cells.size none) := by
    refine ⟨Array.size_replicate, Array.size_replicate, fun first second pair => ?_⟩
    simp [Array.getD_eq_getD_getElem?, same.within pair]
  have shown := (same.treeAt around (Nat.le_refl _) (Nat.le_refl _) same.root _ _ unknown).1
  exact congrArg Prod.fst shown

/-! ## Comparison -/

section Tests

variable {First Second : Type} {test : First → Except Fault Bool} {entries : List First}

theorem allOf_congr {pairs : First → Second → Prop} {again : Second → Except Fault Bool}
    {others : List Second} (aligned : List.Forall₂ pairs entries others)
    (same : ∀ entry other, pairs entry other → test entry = again other) :
    allOf test entries = allOf again others := by
  induction aligned with
  | nil => rfl
  | cons pair _ ih => rw [allOf, allOf, same _ _ pair, ih]

/-- A test that says more where it fails changes nothing about one of all entries that succeeds. -/
theorem allOf_mono {again : First → Except Fault Bool} {verdict : Bool}
    (keeps : ∀ entry found, test entry = .ok found → again entry = .ok found)
    (tested : allOf test entries = .ok verdict) : allOf again entries = .ok verdict := by
  induction entries with
  | nil => exact tested
  | cons entry rest ih =>
      rw [allOf] at tested ⊢
      obtain ⟨found, here, behind⟩ := bind_ok tested
      rw [keeps entry found here]
      cases found with
      | true => exact ih behind
      | false => exact behind

end Tests

theorem findSame?_paired {members others : List (Key × Nat)}
    (aligned : List.Forall₂ (Members.Paired related) members others) (key : Key) :
    Option.Rel related (Members.findSame? members key) (Members.findSame? others key) := by
  induction aligned with
  | nil => exact .none
  | @cons member other _ _ pair _ ih =>
      rw [Members.findSame?, Members.findSame?, List.find?_cons, List.find?_cons, ← pair.1]
      cases member.1.same key with
      | true => exact .some pair.2
      | false => exact ih

theorem aligned_zip {associated : Nat → Nat → Prop} {items again others further : List Nat}
    (first : List.Forall₂ related items again) (second : List.Forall₂ associated others further) :
    List.Forall₂ (fun entry other => related entry.1 other.1 ∧ associated entry.2 other.2)
      (items.zip others) (again.zip further) := by
  induction first generalizing others further with
  | nil => exact .nil
  | cons pair _ ih =>
      cases second with
      | nil => exact .nil
      | cons other rest => exact .cons ⟨pair, other⟩ (ih rest)

theorem Renumbering.sameCells {left right leftAgain rightAgain : Graph}
    {related associated : Nat → Nat → Prop} (same : Renumbering left leftAgain related)
    (alike : Renumbering right rightAgain associated) {limit first again second further : Nat}
    (pair : related first again) (other : associated second further) :
    sameCells left right limit first second = sameCells leftAgain rightAgain limit again further := by
  induction limit generalizing first again second further with
  | zero => rfl
  | succ limit ih =>
      have contents := same.cells pair
      have opposite := alike.cells other
      rw [Graph.sameCells, Graph.sameCells]
      generalize left.cell first = cell at contents ⊢
      generalize leftAgain.cell again = cellAgain at contents ⊢
      generalize right.cell second = facing at opposite ⊢
      generalize rightAgain.cell further = facingAgain at opposite ⊢
      cases contents with
      | scalar value => cases opposite <;> rfl
      | list items =>
          cases opposite with
          | scalar value => rfl
          | object members => rfl
          | list others =>
              have entries := allOf_congr (aligned_zip items others) fun _ _ pairs =>
                ih pairs.1 pairs.2
              simp only [items.length_eq, others.length_eq]
              rw [entries]
      | object members =>
          cases opposite with
          | scalar value => rfl
          | list items => rfl
          | @object rest restAgain others =>
              simp only [members.length_eq, others.length_eq]
              refine if_congr Iff.rfl (allOf_congr members fun member twin paired => ?_) rfl
              have found := findSame?_paired others twin.1
              rw [paired.1]
              generalize Members.findSame? rest twin.1 = value? at found ⊢
              generalize Members.findSame? restAgain twin.1 = twin? at found ⊢
              cases found with
              | none => rfl
              | some value => exact ih paired.2 value

theorem sameCells_succ {limit first second : Nat} {verdict : Bool}
    (compared : sameCells left right limit first second = .ok verdict) :
    sameCells left right (limit + 1) first second = .ok verdict := by
  induction limit generalizing first second verdict with
  | zero => cases compared
  | succ limit ih =>
      rw [Graph.sameCells] at compared ⊢
      generalize left.cell first = cell at compared ⊢
      generalize right.cell second = facing at compared ⊢
      cases cell with
      | scalar value => cases facing <;> exact compared
      | list items =>
          cases facing with
          | list others =>
              by_cases alike : items.length = others.length
              · simp only [if_pos alike] at compared ⊢
                exact allOf_mono (fun _ _ tested => ih tested) compared
              · simp only [if_neg alike] at compared ⊢
                exact compared
          | _ => exact compared
      | object members =>
          cases facing with
          | object others =>
              by_cases alike : members.length = others.length
              · simp only [if_pos alike] at compared ⊢
                refine allOf_mono (fun member found tested => ?_) compared
                cases selected : Members.findSame? others member.1 with
                | none => simpa only [selected] using tested
                | some other =>
                    simp only [selected] at tested ⊢
                    exact ih tested
              · simp only [if_neg alike] at compared ⊢
                exact compared
          | _ => exact compared

theorem sameCells_mono {limit bound first second : Nat} {verdict : Bool} (below : limit ≤ bound)
    (compared : sameCells left right limit first second = .ok verdict) :
    sameCells left right bound first second = .ok verdict := by
  induction below with
  | refl => exact compared
  | step _ ih => exact sameCells_succ ih

/-- Renumberings that have no fewer cells compare like the graphs that they renumber. -/
theorem same_of_renumbered {leftAgain rightAgain : Graph} {verdict : Bool}
    (leftSame : Renumbered left leftAgain) (rightSame : Renumbered right rightAgain)
    (more : left.cells.size ≤ leftAgain.cells.size)
    (rightMore : right.cells.size ≤ rightAgain.cells.size)
    (compared : left.same right = .ok verdict) : leftAgain.same rightAgain = .ok verdict := by
  obtain ⟨related, leftSame⟩ := leftSame
  obtain ⟨associated, rightSame⟩ := rightSame
  rw [Graph.same, leftSame.sameCells rightSame leftSame.root rightSame.root] at compared
  exact sameCells_mono (Nat.add_le_add_right (Nat.mul_le_mul more rightMore) 2) compared

end Graph

end ApiReview
