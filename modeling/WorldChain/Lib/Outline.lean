import Mathlib

/-! # Trees written as outlines

An outline lists the nodes of a tree in pre-order, each with its depth: a node, then its children one after another,
each with everything below it.
-/

namespace Outline

/-- A finite tree with ordered children. -/
inductive Rose (α : Type*)
  | node (label : α) (children : List (Rose α))

namespace Rose

variable {α : Type*}

def label : Rose α → α
  | node label _ => label

def children : Rose α → List (Rose α)
  | node _ children => children

@[simp] theorem label_node (label : α) (children : List (Rose α)) : (node label children).label = label := rfl

@[simp] theorem children_node (label : α) (children : List (Rose α)) : (node label children).children = children := rfl

mutual

/-- The number of nodes. -/
def size : Rose α → ℕ
  | node _ children => sizes children + 1

def sizes : List (Rose α) → ℕ
  | [] => 0
  | tree :: rest => tree.size + sizes rest

end

theorem size_pos (tree : Rose α) : 0 < tree.size := by
  cases tree
  simp [size]

theorem sizes_children (tree : Rose α) : sizes tree.children + 1 = tree.size := by
  cases tree
  rw [children_node, size]

theorem size_le_sizes {tree : Rose α} {trees : List (Rose α)} (member : tree ∈ trees) :
    tree.size ≤ sizes trees := by
  induction trees with
  | nil => simp at member
  | cons first rest ih =>
    rw [sizes]
    rcases List.mem_cons.mp member with rfl | later
    · omega
    · have := ih later
      omega

mutual

/-- The tree and everything below it, in pre-order. -/
def subtrees : Rose α → List (Rose α)
  | node label children => node label children :: subtreesAll children

def subtreesAll : List (Rose α) → List (Rose α)
  | [] => []
  | tree :: rest => tree.subtrees ++ subtreesAll rest

end

/-- A way down from a tree to one below it, by the labels passed on the way. -/
inductive Path : Rose α → List α → Rose α → Prop
  | here (tree : Rose α) : Path tree [] tree
  | down {label : α} {children : List (Rose α)} {child target : Rose α} {passed : List α} (member : child ∈ children)
      (rest : Path child passed target) : Path (node label children) (label :: passed) target

theorem Path.append {top middle bottom : Rose α} {first second : List α} (upper : Path top first middle)
    (lower : Path middle second bottom) : Path top (first ++ second) bottom := by
  induction upper with
  | here => exact lower
  | down member _ ih => exact .down member (ih lower)

theorem Path.size_le {top bottom : Rose α} {passed : List α} (path : Path top passed bottom) :
    bottom.size + passed.length ≤ top.size := by
  induction path with
  | here => simp
  | @down _ _ child _ _ member _ ih =>
    have fits : child.size ≤ _ := size_le_sizes member
    simp only [size, List.length_cons]
    omega

mutual

theorem exists_path_of_mem_subtrees {target : Rose α} :
    ∀ tree : Rose α, target ∈ tree.subtrees → ∃ passed, Path tree passed target
  | node label children => by
    intro member
    rcases List.mem_cons.mp (by simpa [subtrees] using member) with rfl | below
    · exact ⟨[], .here _⟩
    · obtain ⟨child, isChild, passed, path⟩ := exists_path_of_mem_subtreesAll children below
      exact ⟨label :: passed, .down isChild path⟩

theorem exists_path_of_mem_subtreesAll {target : Rose α} :
    ∀ trees : List (Rose α), target ∈ subtreesAll trees → ∃ tree ∈ trees, ∃ passed, Path tree passed target
  | [] => by simp [subtreesAll]
  | tree :: rest => by
    intro member
    rcases List.mem_append.mp (by simpa [subtreesAll] using member) with here | later
    · exact ⟨tree, by simp, exists_path_of_mem_subtrees tree here⟩
    · obtain ⟨other, isLater, path⟩ := exists_path_of_mem_subtreesAll rest later
      exact ⟨other, List.mem_cons_of_mem _ isLater, path⟩

end

theorem size_le_of_mem_subtreesAll {target : Rose α} {trees : List (Rose α)} (member : target ∈ subtreesAll trees) :
    target.size ≤ sizes trees := by
  obtain ⟨tree, isTree, passed, path⟩ := exists_path_of_mem_subtreesAll trees member
  exact (Nat.le_of_add_right_le path.size_le).trans (size_le_sizes isTree)

end Rose

open Rose

section Rendering

variable {α β : Type*} (render : ℕ → α → β)

mutual

/-- The outline of a tree whose root is at a depth. -/
def outline (depth : ℕ) : Rose α → List β
  | .node label children => render depth label :: outlines (depth + 1) children

def outlines (depth : ℕ) : List (Rose α) → List β
  | [] => []
  | tree :: rest => outline depth tree ++ outlines depth rest

end

mutual

theorem length_outline (depth : ℕ) : ∀ tree : Rose α, (outline render depth tree).length = tree.size
  | .node _ children => by simp [outline, size, length_outlines (depth + 1) children]

theorem length_outlines (depth : ℕ) : ∀ trees : List (Rose α), (outlines render depth trees).length = sizes trees
  | [] => rfl
  | tree :: rest => by simp [outlines, sizes, length_outline depth tree, length_outlines depth rest]

end

theorem outlines_append (depth : ℕ) (first second : List (Rose α)) :
    outlines render depth (first ++ second) = outlines render depth first ++ outlines render depth second := by
  induction first with
  | nil => rfl
  | cons tree rest ih => simp [outlines, ih]

end Rendering

/-! ## Depths tell the subtrees apart -/

section Placement

variable {α β : Type*} {render : ℕ → α → β} {depthOf : β → ℕ}

mutual

theorem le_depthOf_outline (faithful : ∀ depth label, depthOf (render depth label) = depth) (depth : ℕ) :
    ∀ (tree : Rose α), ∀ entry ∈ outline render depth tree, depth ≤ depthOf entry
  | .node label children => by
    intro entry member
    rcases List.mem_cons.mp (by simpa [outline] using member) with rfl | below
    · exact (faithful depth label).ge
    · exact (Nat.le_succ depth).trans (le_depthOf_outlines faithful (depth + 1) children entry below)

theorem le_depthOf_outlines (faithful : ∀ depth label, depthOf (render depth label) = depth) (depth : ℕ) :
    ∀ (trees : List (Rose α)), ∀ entry ∈ outlines render depth trees, depth ≤ depthOf entry
  | [] => by simp [outlines]
  | tree :: rest => by
    intro entry member
    rcases List.mem_append.mp (by simpa [outlines] using member) with here | later
    · exact le_depthOf_outline faithful depth tree entry here
    · exact le_depthOf_outlines faithful depth rest entry later

end

variable (render depthOf) in
def Placed (entries : List β) (index depth : ℕ) (tree : Rose α) : Prop :=
  ∃ rest, entries.drop index = outline render depth tree ++ rest ∧ ∀ entry ∈ rest.head?, depthOf entry ≤ depth

variable (render depthOf) in
def PlacedAll (entries : List β) (index depth : ℕ) (trees : List (Rose α)) : Prop :=
  ∃ rest, entries.drop index = outlines render depth trees ++ rest ∧ ∀ entry ∈ rest.head?, depthOf entry < depth

variable {entries : List β} {index depth : ℕ}

theorem placed_outline (tree : Rose α) : Placed render depthOf (outline render depth tree) 0 depth tree :=
  ⟨[], by simp, by simp⟩

theorem Placed.label {label : α} {children : List (Rose α)}
    (placed : Placed render depthOf entries index depth (.node label children)) :
    entries[index]? = some (render depth label) := by
  obtain ⟨rest, dropped, -⟩ := placed
  have head : (entries.drop index)[0]? = some (render depth label) := by simp [dropped, outline]
  simpa using head

theorem Placed.children {label : α} {children : List (Rose α)}
    (placed : Placed render depthOf entries index depth (.node label children)) :
    PlacedAll render depthOf entries (index + 1) (depth + 1) children := by
  obtain ⟨rest, dropped, ends⟩ := placed
  refine ⟨rest, ?_, fun entry member => Nat.lt_succ_of_le (ends entry member)⟩
  rw [← List.drop_drop, dropped]
  simp [outline]

theorem PlacedAll.head (faithful : ∀ depth label, depthOf (render depth label) = depth) {tree : Rose α}
    {trees : List (Rose α)} (placed : PlacedAll render depthOf entries index depth (tree :: trees)) :
    Placed render depthOf entries index depth tree := by
  obtain ⟨rest, dropped, ends⟩ := placed
  refine ⟨outlines render depth trees ++ rest, by simpa [outlines] using dropped, ?_⟩
  cases trees with
  | nil => exact fun entry member => (ends entry (by simpa [outlines] using member)).le
  | cons next later =>
    obtain ⟨label, children⟩ := next
    simp [outlines, outline, faithful]

theorem PlacedAll.tail {tree : Rose α} {trees : List (Rose α)}
    (placed : PlacedAll render depthOf entries index depth (tree :: trees)) :
    PlacedAll render depthOf entries (index + tree.size) depth trees := by
  obtain ⟨rest, dropped, ends⟩ := placed
  refine ⟨rest, ?_, ends⟩
  rw [← List.drop_drop, dropped, outlines, List.append_assoc, ← length_outline render depth tree, List.drop_left]

theorem drop_zipIdx (entries : List β) (count start : ℕ) :
    (entries.zipIdx start).drop count = (entries.drop count).zipIdx (start + count) := by
  apply List.ext_getElem?
  intro position
  rw [List.getElem?_drop, List.getElem?_zipIdx, List.getElem?_zipIdx, List.getElem?_drop, Nat.add_assoc]

variable (depthOf) in
def below (entries : List β) (index floor : ℕ) : List (β × ℕ) :=
  ((entries.zipIdx).drop (index + 1)).takeWhile fun entry => floor < depthOf entry.1

theorem Placed.below_eq (faithful : ∀ depth label, depthOf (render depth label) = depth) {label : α}
    {children : List (Rose α)} (placed : Placed render depthOf entries index depth (.node label children)) :
    below depthOf entries index depth = (outlines render (depth + 1) children).zipIdx (index + 1) := by
  obtain ⟨rest, dropped, ends⟩ := placed.children
  have deeper : ∀ entry ∈ (outlines render (depth + 1) children).zipIdx (index + 1), depth < depthOf entry.1 := by
    rintro ⟨entry, position⟩ member
    exact le_depthOf_outlines faithful (depth + 1) children entry (List.fst_mem_of_mem_zipIdx member)
  rw [below, drop_zipIdx, Nat.zero_add, dropped, List.zipIdx_append,
    List.takeWhile_append_of_pos (by simpa using deeper)]
  cases rest with
  | nil => simp
  | cons next _ =>
    have shallow : depthOf next ≤ depth := Nat.lt_succ_iff.mp (ends next (by simp))
    simp [List.zipIdx_cons, shallow]

/-! ## Searching an outline -/

def SameFind (render : ℕ → α → β) (depthOf : β → ℕ) (entries : List β) (entry : Option (β × ℕ))
    (tree : Option (Rose α)) : Prop :=
  entry = none ∧ tree = none ∨
    ∃ found position depth, tree = some found ∧ entry = some (render depth found.label, position) ∧
      Placed render depthOf entries position depth found

variable {test : β → Bool} {select : α → Bool}

theorem SameFind.or {first second : Option (β × ℕ)} {left right : Option (Rose α)}
    (here : SameFind render depthOf entries first left) (later : SameFind render depthOf entries second right) :
    SameFind render depthOf entries (first.or second) (left.or right) := by
  rcases here with ⟨rfl, rfl⟩ | ⟨found, position, depth, rfl, rfl, placed⟩
  · simpa using later
  · exact .inr ⟨found, position, depth, rfl, rfl, placed⟩

mutual

theorem find?_outline (faithful : ∀ depth label, depthOf (render depth label) = depth)
    (agree : ∀ depth label, test (render depth label) = select label) :
    ∀ (tree : Rose α) (index depth : ℕ), Placed render depthOf entries index depth tree →
      SameFind render depthOf entries (((outline render depth tree).zipIdx index).find? fun entry => test entry.1)
        (tree.subtrees.find? fun subtree => select subtree.label)
  | .node label children => by
    intro index depth placed
    by_cases selected : select label = true
    · refine .inr ⟨.node label children, index, depth, ?_, ?_, placed⟩
      · simp [subtrees, selected]
      · simp [outline, agree, selected]
    · have below := find?_outlines faithful agree children (index + 1) (depth + 1) placed.children
      simpa [outline, subtrees, agree, selected] using below

theorem find?_outlines (faithful : ∀ depth label, depthOf (render depth label) = depth)
    (agree : ∀ depth label, test (render depth label) = select label) :
    ∀ (trees : List (Rose α)) (index depth : ℕ), PlacedAll render depthOf entries index depth trees →
      SameFind render depthOf entries (((outlines render depth trees).zipIdx index).find? fun entry => test entry.1)
        ((subtreesAll trees).find? fun subtree => select subtree.label)
  | [] => by
    intro index depth _
    exact .inl ⟨rfl, rfl⟩
  | tree :: rest => by
    intro index depth placed
    have here := find?_outline faithful agree tree index depth (placed.head faithful)
    have later := find?_outlines faithful agree rest (index + tree.size) depth placed.tail
    have together := here.or later
    rwa [← List.find?_append, ← List.find?_append, ← length_outline render depth tree, ← List.zipIdx_append] at together

end

end Placement

end Outline
