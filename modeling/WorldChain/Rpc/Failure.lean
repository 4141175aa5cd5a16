import WorldChain.Rpc.Inspector

/-! # The failure that explains a simulation

The explanation of a failed simulation is read off the flat trace: parents and children are found again by the depths
of the entries.
-/

namespace WorldChain.Rpc

open Dispute (Address Bytes)
open Outline

/-- `executeUserOp`. -/
def executeUserOpSelector : Selector := #v[0x7b, 0xb3, 0x74, 0x28]

/-- `execTransactionFromModule`. -/
def execTransactionFromModuleSelector : Selector := #v[0x46, 0x87, 0x21, 0xa7]

/-- `ExecutionFailed()`. -/
def executionFailedSelector : Selector := #v[0xac, 0xfd, 0xb4, 0x44]

inductive FrameFailure
  | revert (output : Bytes)
  | halt (reason : InstructionResult)
deriving DecidableEq, Repr

/-- How a scan can end without an answer: the index of a slice is out of range, or it was not given enough steps. -/
inductive Abort
  | outOfRange
  | outOfFuel
deriving DecidableEq, Repr

section Scans

variable (traces : List RawTrace)

def traceAt (index : ℕ) : Except Abort RawTrace :=
  match traces[index]? with
  | some trace => .ok trace
  | none => .error .outOfRange

def descendants (index : ℕ) (frame : RawTrace) : List (RawTrace × ℕ) := below RawTrace.depth traces index frame.depth

def lastDirectChild (parent : ℕ) : Except Abort (Option ℕ) := do
  let frame ← traceAt traces parent
  return (descendants traces parent frame).foldl
    (fun last entry => if entry.1.depth = frame.depth + 1 then some entry.2 else last) none

/-- A successful `execTransactionFromModule` frame. -/
def RawTrace.isSafeTransaction (trace : RawTrace) : Bool :=
  trace.outcome = some .success ∧ trace.selector = some execTransactionFromModuleSelector

def scanChildren (wrapped failed : ℕ → Except Abort (Option FrameFailure)) (depth : ℕ) :
    List (RawTrace × ℕ) → Except Abort (Option FrameFailure)
  | [] => .ok none
  | (trace, child) :: rest =>
    if trace.depth = depth + 1 then
      if trace.isSafeTransaction then do
        match ← wrapped child with
        | some candidate => return some candidate
        | none => scanChildren wrapped failed depth rest
      else if trace.outcome = some .revert ∨ trace.outcome = some .halt then failed child
      else scanChildren wrapped failed depth rest
    else scanChildren wrapped failed depth rest

mutual

def frameFailure : ℕ → ℕ → Except Abort (Option FrameFailure)
  | 0, _ => .error .outOfFuel
  | fuel + 1, current => do
    let frame ← traceAt traces current
    match frame.outcome with
    | some .success | none => return none
    | some .halt => return frame.haltReason.map .halt
    | some .revert =>
      match frame.revertOutput with
      | some output =>
        if output = executionFailedSelector.toList ∧ frame.selector = some executeUserOpSelector then do
          let recovered ← safeExecutionFailure fuel current
          return recovered.or (some (.revert output))
        else return some (.revert output)
      | none =>
        -- The loop goes on with the last child.
        match ← lastDirectChild traces current with
        | some child => frameFailure fuel child
        | none => return none

def safeExecutionFailure : ℕ → ℕ → Except Abort (Option FrameFailure)
  | 0, _ => .error .outOfFuel
  | fuel + 1, index => do
    let frame ← traceAt traces index
    match (descendants traces index frame).find? fun entry => entry.1.isSafeTransaction with
    | some entry => safeTransactionFailure fuel entry.2
    | none => return none

def safeTransactionFailure : ℕ → ℕ → Except Abort (Option FrameFailure)
  | 0, _ => .error .outOfFuel
  | fuel + 1, index => do
    let frame ← traceAt traces index
    scanChildren (safeTransactionFailure fuel) (frameFailure fuel) frame.depth (descendants traces index frame)

end

def terminalFailure : Except Abort (Option FrameFailure) :=
  match traces with
  | [] => .ok none
  | _ :: _ => frameFailure traces (2 * traces.length) 0

end Scans

/-! ## The explanation on the tree -/

namespace CallFrame

variable (frame : CallFrame)

def isSafeTransaction : Bool :=
  frame.ending = .success ∧ frame.selector = some execTransactionFromModuleSelector

def failed : Bool := frame.ending ≠ .success

def replacesFailure : Bool :=
  frame.ending = .revert executionFailedSelector.toList ∧ frame.selector = some executeUserOpSelector

def ownFailure : Option FrameFailure :=
  match frame.ending with
  | .success | .revert [] => none
  | .revert (byte :: payload) => some (.revert (byte :: payload))
  | .halt reason => some (.halt reason)

end CallFrame

mutual

/-- The failure that explains a frame. -/
def failure : Rose CallFrame → Option FrameFailure
  | .node frame children =>
    if frame.ending = .revert [] then lastFailure children
    else if frame.replacesFailure then ((caughtBelow children).getD none).or frame.ownFailure
    else frame.ownFailure

def lastFailure : List (Rose CallFrame) → Option FrameFailure
  | [] => none
  | [child] => failure child
  | _ :: next :: rest => lastFailure (next :: rest)

def caught : List (Rose CallFrame) → Option FrameFailure
  | [] => none
  | .node frame children :: rest =>
    if frame.isSafeTransaction then (caught children).or (caught rest)
    else if frame.failed then failure (.node frame children)
    else caught rest

def caughtAt : Rose CallFrame → Option (Option FrameFailure)
  | .node frame children => if frame.isSafeTransaction then some (caught children) else caughtBelow children

def caughtBelow : List (Rose CallFrame) → Option (Option FrameFailure)
  | [] => none
  | child :: rest => (caughtAt child).or (caughtBelow rest)

end

section Equations

theorem lastFailure_eq (children : List (Rose CallFrame)) :
    lastFailure children = children.getLast?.bind failure := by
  induction children with
  | nil => rfl
  | cons child rest ih =>
    cases rest with
    | nil => simp [lastFailure]
    | cons next later => rw [lastFailure, ih, List.getLast?_cons_cons]

theorem caught_cons (child : Rose CallFrame) (rest : List (Rose CallFrame)) :
    caught (child :: rest) =
      if child.label.isSafeTransaction then (caught child.children).or (caught rest)
      else if child.label.failed then failure child
      else caught rest := by
  cases child
  rw [caught]
  rfl

mutual

theorem caughtAt_eq :
    ∀ tree : Rose CallFrame,
      caughtAt tree = (tree.subtrees.find? (·.label.isSafeTransaction)).map fun found => caught found.children
  | .node frame children => by
    by_cases safe : frame.isSafeTransaction = true
    · simp [caughtAt, Rose.subtrees, safe]
    · simp [caughtAt, Rose.subtrees, safe, caughtBelow_eq children]

theorem caughtBelow_eq :
    ∀ trees : List (Rose CallFrame),
      caughtBelow trees =
        ((Rose.subtreesAll trees).find? (·.label.isSafeTransaction)).map fun found => caught found.children
  | [] => rfl
  | tree :: rest => by
    rw [caughtBelow, caughtAt_eq tree, caughtBelow_eq rest, Rose.subtreesAll, List.find?_append, Option.map_or]

end

end Equations

/-! ## The scans compute it -/

section Refinement

variable {traces : List RawTrace} {index depth : ℕ} {frame : CallFrame} {children : List (Rose CallFrame)}

/-- A call tree stands at an index of the traces. -/
abbrev TreeAt (traces : List RawTrace) (index depth : ℕ) (tree : Rose CallFrame) : Prop :=
  Placed CallFrame.trace RawTrace.depth traces index depth tree

abbrev TreesAt (traces : List RawTrace) (index depth : ℕ) (trees : List (Rose CallFrame)) : Prop :=
  PlacedAll CallFrame.trace RawTrace.depth traces index depth trees

theorem traceAt_eq (placed : TreeAt traces index depth (.node frame children)) :
    traceAt traces index = .ok (frame.trace depth) := by
  rw [traceAt, placed.label]

theorem descendants_eq (placed : TreeAt traces index depth (.node frame children)) :
    descendants traces index (frame.trace depth) = (outlines CallFrame.trace (depth + 1) children).zipIdx (index + 1) :=
  placed.below_eq CallFrame.depth_trace

@[simp] theorem isSafeTransaction_trace (depth : ℕ) (frame : CallFrame) :
    (frame.trace depth).isSafeTransaction = frame.isSafeTransaction := by
  cases ending : frame.ending <;>
    simp [RawTrace.isSafeTransaction, CallFrame.isSafeTransaction, CallFrame.trace, ending, Ending.outcome]

theorem failed_trace (depth : ℕ) (frame : CallFrame) :
    (frame.trace depth).outcome = some .revert ∨ (frame.trace depth).outcome = some .halt ↔ frame.failed = true := by
  cases ending : frame.ending <;> simp [CallFrame.failed, CallFrame.trace, ending, Ending.outcome]

theorem deeper_of_mem {entry : RawTrace × ℕ}
    (member : entry ∈ (outlines CallFrame.trace (depth + 1) children).zipIdx index) : entry.1.depth ≠ depth := by
  have := le_depthOf_outlines CallFrame.depth_trace (depth + 1) children entry.1 (List.fst_mem_of_mem_zipIdx member)
  omega

theorem zipIdx_outlines_cons (rest : List (Rose CallFrame)) :
    (outlines CallFrame.trace depth (.node frame children :: rest)).zipIdx index =
      (frame.trace depth, index) :: (outlines CallFrame.trace (depth + 1) children).zipIdx (index + 1) ++
        (outlines CallFrame.trace depth rest).zipIdx (index + (Rose.node frame children).size) := by
  rw [outlines, List.zipIdx_append, length_outline, outline, List.zipIdx_cons]

theorem foldl_last_of_deeper {entries : List (RawTrace × ℕ)} (deeper : ∀ entry ∈ entries, entry.1.depth ≠ depth)
    (last : Option ℕ) :
    entries.foldl (fun last entry => if entry.1.depth = depth then some entry.2 else last) last = last := by
  induction entries with
  | nil => rfl
  | cons entry rest ih =>
    rw [List.foldl_cons, if_neg (deeper entry (by simp)), ih fun other member => deeper other (by simp [member])]

theorem foldl_last_outlines (trees : List (Rose CallFrame)) (last : Option ℕ)
    (placed : TreesAt traces index depth trees) :
    trees = [] ∨ ∃ tree position, trees.getLast? = some tree ∧ TreeAt traces position depth tree ∧
      ((outlines CallFrame.trace depth trees).zipIdx index).foldl
        (fun last entry => if entry.1.depth = depth then some entry.2 else last) last = some position := by
  induction trees generalizing index last with
  | nil => exact .inl rfl
  | cons first rest ih =>
    obtain ⟨frame, children⟩ := first
    refine .inr ?_
    rw [zipIdx_outlines_cons, List.foldl_append, List.foldl_cons, if_pos (frame.depth_trace depth),
      foldl_last_of_deeper fun entry => deeper_of_mem]
    rcases ih (some index) placed.tail with rfl | ⟨tree, position, isLast, stands, found⟩
    · exact ⟨_, index, rfl, placed.head CallFrame.depth_trace, by simp [outlines]⟩
    · exact ⟨tree, position, by rw [List.getLast?_cons, isLast]; rfl, stands, found⟩

theorem lastDirectChild_eq (placed : TreeAt traces index depth (.node frame children)) :
    children = [] ∧ lastDirectChild traces index = .ok none ∨
      ∃ child position, children.getLast? = some child ∧ TreeAt traces position (depth + 1) child ∧
        lastDirectChild traces index = .ok (some position) := by
  have read : lastDirectChild traces index = .ok (((outlines CallFrame.trace (depth + 1) children).zipIdx
      (index + 1)).foldl (fun last entry => if entry.1.depth = depth + 1 then some entry.2 else last) none) := by
    rw [lastDirectChild, traceAt_eq placed]
    change Except.ok _ = _
    rw [descendants_eq placed]
    rfl
  rcases foldl_last_outlines children none placed.children with rfl | ⟨child, position, isLast, stands, found⟩
  · exact .inl ⟨rfl, read⟩
  · exact .inr ⟨child, position, isLast, stands, by rw [read, found]⟩

variable {wrapped failed : ℕ → Except Abort (Option FrameFailure)}

theorem scanChildren_of_deeper {entries : List (RawTrace × ℕ)} (deeper : ∀ entry ∈ entries, entry.1.depth ≠ depth + 1)
    (rest : List (RawTrace × ℕ)) :
    scanChildren wrapped failed depth (entries ++ rest) = scanChildren wrapped failed depth rest := by
  induction entries with
  | nil => rfl
  | cons entry others ih =>
    obtain ⟨trace, child⟩ := entry
    rw [List.cons_append, scanChildren, if_neg (deeper (trace, child) (by simp)),
      ih fun other member => deeper other (by simp [member])]

theorem scanChildren_outlines (trees : List (Rose CallFrame)) (placed : TreesAt traces index (depth + 1) trees)
    (crosses : ∀ tree ∈ trees, ∀ position, TreeAt traces position (depth + 1) tree →
      wrapped position = .ok (caught tree.children))
    (explains : ∀ tree ∈ trees, ∀ position, TreeAt traces position (depth + 1) tree →
      failed position = .ok (failure tree)) :
    scanChildren wrapped failed depth ((outlines CallFrame.trace (depth + 1) trees).zipIdx index) =
      .ok (caught trees) := by
  induction trees generalizing index with
  | nil => rfl
  | cons first rest ih =>
    have later := ih placed.tail (fun tree member => crosses tree (by simp [member]))
      (fun tree member => explains tree (by simp [member]))
    have stands := placed.head CallFrame.depth_trace
    have crossed := crosses first (by simp) index stands
    have explained := explains first (by simp) index stands
    obtain ⟨frame, children⟩ := first
    rw [zipIdx_outlines_cons, List.cons_append, scanChildren, if_pos (frame.depth_trace _), isSafeTransaction_trace,
      scanChildren_of_deeper (fun entry => deeper_of_mem), later, caught, crossed,
      Rose.children_node]
    simp only [failed_trace, explained]
    by_cases safe : frame.isSafeTransaction = true
    · rw [if_pos safe, if_pos safe]
      cases caught children <;> rfl
    · rw [if_neg safe, if_neg safe]
      split <;> rfl

theorem frameFailure_succ (placed : TreeAt traces index depth (.node frame children)) (fuel : ℕ) :
    frameFailure traces (fuel + 1) index =
      if frame.ending = .revert [] then do
        match ← lastDirectChild traces index with
        | some child => frameFailure traces fuel child
        | none => return none
      else if frame.replacesFailure then do
        let recovered ← safeExecutionFailure traces fuel index
        return recovered.or frame.ownFailure
      else return frame.ownFailure := by
  have read (rest : RawTrace → Except Abort (Option FrameFailure)) :
      (traceAt traces index >>= rest) = rest (frame.trace depth) := by
    rw [traceAt_eq placed]
    rfl
  rw [frameFailure, read]
  rcases ending : frame.ending with _ | (_ | ⟨byte, payload⟩) | reason <;>
    simp [CallFrame.trace, ending, Ending.outcome, Ending.revertOutput, Ending.haltReason, CallFrame.replacesFailure,
      CallFrame.ownFailure]

theorem safeExecutionFailure_eq (placed : TreeAt traces index depth (.node frame children)) (fuel : ℕ)
    (explains : ∀ (tree : Rose CallFrame) (position depth : ℕ), tree.size ≤ Rose.sizes children →
      TreeAt traces position depth tree → safeTransactionFailure traces fuel position = .ok (caught tree.children)) :
    safeExecutionFailure traces (fuel + 1) index = .ok ((caughtBelow children).getD none) := by
  rw [safeExecutionFailure, traceAt_eq placed]
  change (match (descendants traces index (frame.trace depth)).find? _ with
    | some entry => _
    | none => _) = _
  rw [descendants_eq placed, caughtBelow_eq]
  rcases find?_outlines CallFrame.depth_trace isSafeTransaction_trace children (index + 1) (depth + 1)
    placed.children with ⟨nothing, none⟩ | ⟨tree, position, depth, first, found, stands⟩
  · rw [nothing, none]
    rfl
  · have small : tree.size ≤ Rose.sizes children :=
      Rose.size_le_of_mem_subtreesAll (List.mem_of_find?_eq_some first)
    rw [found, first]
    exact explains tree position depth small stands

theorem frameFailure_eq (fuel : ℕ) :
    ∀ (tree : Rose CallFrame) (index depth : ℕ), 2 * tree.size ≤ fuel → TreeAt traces index depth tree →
      frameFailure traces fuel index = .ok (failure tree) ∧
        safeTransactionFailure traces fuel index = .ok (caught tree.children) := by
  -- Strong induction: a recovery takes two steps to the Safe transaction it looks into.
  induction fuel using Nat.strong_induction_on with
  | _ fuel ih =>
    rintro ⟨frame, children⟩ index depth enough placed
    obtain ⟨fuel, rfl⟩ : ∃ less, fuel = less + 2 := ⟨fuel - 2, by simp only [Rose.size] at enough; omega⟩
    have fits (child : Rose CallFrame) (member : child ∈ children) : 2 * child.size ≤ fuel + 1 := by
      have := Rose.size_le_sizes member
      simp only [Rose.size] at enough
      omega
    constructor
    · rw [frameFailure_succ placed, failure]
      split
      · rw [lastFailure_eq]
        rcases lastDirectChild_eq placed with ⟨rfl, nothing⟩ | ⟨child, position, isLast, stands, found⟩
        · rw [nothing]
          rfl
        · rw [found, isLast]
          exact (ih (fuel + 1) (by omega) child position _ (fits child (List.mem_of_getLast? isLast)) stands).1
      · split
        · rw [safeExecutionFailure_eq placed fuel fun tree position depth small stands =>
            (ih fuel (by omega) tree position depth (by simp only [Rose.size] at enough; omega) stands).2]
          rfl
        · rfl
    · rw [safeTransactionFailure, traceAt_eq placed]
      change scanChildren _ _ depth (descendants traces index (frame.trace depth)) = _
      rw [descendants_eq placed]
      exact scanChildren_outlines children placed.children
        (fun child member position stands => (ih (fuel + 1) (by omega) child position _ (fits child member) stands).2)
        (fun child member position stands => (ih (fuel + 1) (by omega) child position _ (fits child member) stands).1)

theorem terminalFailure_outline (tree : Rose CallFrame) :
    terminalFailure (outline CallFrame.trace 0 tree) = .ok (failure tree) := by
  have enough : 2 * tree.size ≤ 2 * (outline CallFrame.trace 0 tree).length := by rw [length_outline]
  have explained := (frameFailure_eq _ tree 0 0 enough (placed_outline tree)).1
  obtain ⟨frame, children⟩ := tree
  rwa [outline] at explained ⊢

end Refinement

/-! ## The frame that is reported -/

/-- The frames passed on the way to the failure that is reported: empty reverts, and `executeUserOp` frames with those
down to the Safe transaction. -/
inductive Explained : List CallFrame → Prop
  | here : Explained []
  | inherited {frame : CallFrame} {passed : List CallFrame} (empty : frame.ending = .revert [])
      (rest : Explained passed) : Explained (frame :: passed)
  | recovered {frame safe : CallFrame} {between wrappers passed : List CallFrame}
      (replaced : frame.replacesFailure = true)
      (crossed : ∀ wrapper ∈ safe :: wrappers, wrapper.isSafeTransaction = true) (rest : Explained passed) :
      Explained (frame :: (between ++ safe :: wrappers ++ passed))

theorem Explained.ending_eq {passed : List CallFrame} (explained : Explained passed)
    (plain : ∀ frame ∈ passed, frame.replacesFailure = false) : ∀ frame ∈ passed, frame.ending = .revert [] := by
  induction explained with
  | here => simp
  | inherited empty _ ih =>
    rintro frame (_ | ⟨_, later⟩)
    · exact empty
    · exact ih (fun other member => plain other (List.mem_cons_of_mem _ member)) frame later
  | recovered replaced _ _ _ =>
    have not := plain _ List.mem_cons_self
    rw [replaced] at not
    cases not

def Reports (tree : Rose CallFrame) (reported : FrameFailure) : Prop :=
  ∃ passed target, Rose.Path tree passed target ∧ target.label.ownFailure = some reported ∧ Explained passed

def Crosses (trees : List (Rose CallFrame)) (reported : FrameFailure) : Prop :=
  ∃ tree ∈ trees, ∃ wrappers target, Rose.Path tree wrappers target ∧
    (∀ wrapper ∈ wrappers, wrapper.isSafeTransaction = true) ∧ Reports target reported

section Reporting

variable {frame : CallFrame} {children : List (Rose CallFrame)} {reported : FrameFailure}

theorem Reports.own (own : frame.ownFailure = some reported) : Reports (.node frame children) reported :=
  ⟨[], .node frame children, .here _, own, .here⟩

variable {child : Rose CallFrame}

theorem Reports.inherit (member : child ∈ children) (empty : frame.ending = .revert [])
    (reports : Reports child reported) : Reports (.node frame children) reported := by
  obtain ⟨passed, target, path, own, explained⟩ := reports
  exact ⟨frame :: passed, target, .down member path, own, .inherited empty explained⟩

theorem Reports.recover {safe : Rose CallFrame} (below : safe ∈ Rose.subtreesAll children)
    (isSafe : safe.label.isSafeTransaction = true) (replaced : frame.replacesFailure = true)
    (crosses : Crosses safe.children reported) : Reports (.node frame children) reported := by
  obtain ⟨child, isChild, wrappers, failed, through, wrapped, passed, target, path, own, explained⟩ := crosses
  obtain ⟨top, member, between, down⟩ := Rose.exists_path_of_mem_subtreesAll children below
  obtain ⟨label, grandchildren⟩ := safe
  have way : Rose.Path (.node frame children) (frame :: (between ++ label :: wrappers ++ passed)) target := by
    refine .down member ?_
    rw [List.append_assoc]
    exact down.append ((Rose.Path.down isChild through).append path)
  refine ⟨_, target, way, own, .recovered replaced ?_ explained⟩
  rintro wrapper (_ | ⟨_, later⟩)
  · exact isSafe
  · exact wrapped wrapper later

theorem Crosses.wrap {rest : List (Rose CallFrame)} (isSafe : child.label.isSafeTransaction = true)
    (crosses : Crosses child.children reported) : Crosses (child :: rest) reported := by
  obtain ⟨inner, isChild, wrappers, target, path, wrapped, reports⟩ := crosses
  obtain ⟨label, grandchildren⟩ := child
  refine ⟨.node label grandchildren, by simp, label :: wrappers, target, .down isChild path, ?_, reports⟩
  rintro wrapper (_ | ⟨_, later⟩)
  · exact isSafe
  · exact wrapped wrapper later

theorem Crosses.later {rest : List (Rose CallFrame)} (crosses : Crosses rest reported) :
    Crosses (child :: rest) reported := by
  obtain ⟨tree, member, leads⟩ := crosses
  exact ⟨tree, List.mem_cons_of_mem _ member, leads⟩

theorem exists_safe_of_caughtBelow (recovered : (caughtBelow children).getD none = some reported) :
    ∃ safe, (safe ∈ Rose.subtreesAll children ∧ safe.label.isSafeTransaction = true) ∧
      caught safe.children = some reported := by
  rw [caughtBelow_eq] at recovered
  cases found : (Rose.subtreesAll children).find? (·.label.isSafeTransaction) with
  | none => simp [found] at recovered
  | some safe =>
    have isSafe := List.find?_some found
    exact ⟨safe, ⟨List.mem_of_find?_eq_some found, isSafe⟩, by simpa [found] using recovered⟩

theorem reports_of_size_le (bound : ℕ) :
    (∀ tree : Rose CallFrame, tree.size ≤ bound → failure tree = some reported → Reports tree reported) ∧
      ∀ trees : List (Rose CallFrame), Rose.sizes trees ≤ bound → caught trees = some reported →
        Crosses trees reported := by
  induction bound with
  | zero =>
    refine ⟨fun tree small => absurd tree.size_pos (by omega), fun trees small crossed => ?_⟩
    cases trees with
    | nil => cases crossed
    | cons tree rest => exact absurd tree.size_pos (by simp only [Rose.sizes] at small; omega)
  | succ bound ih =>
    obtain ⟨trees, lists⟩ := ih
    have here (tree : Rose CallFrame) (small : tree.size ≤ bound + 1) (fails : failure tree = some reported) :
        Reports tree reported := by
      obtain ⟨frame, children⟩ := tree
      simp only [Rose.size] at small
      rw [failure] at fails
      split at fails
      · next empty =>
        rw [lastFailure_eq] at fails
        obtain ⟨child, isLast, inherited⟩ := Option.bind_eq_some_iff.mp fails
        have member := List.mem_of_getLast? isLast
        exact (trees child ((Rose.size_le_sizes member).trans (by omega)) inherited).inherit member empty
      · split at fails
        · next replaced =>
          rcases Option.or_eq_some_iff.mp fails with recovered | ⟨-, own⟩
          · obtain ⟨safe, found, crossed⟩ := exists_safe_of_caughtBelow recovered
            have small : safe.size ≤ Rose.sizes children := Rose.size_le_of_mem_subtreesAll found.1
            exact .recover found.1 found.2 replaced (lists safe.children
              (by have := safe.sizes_children; omega) crossed)
          · exact .own own
        · exact .own fails
    refine ⟨here, fun list small crossed => ?_⟩
    cases list with
    | nil => cases crossed
    | cons child rest =>
      have positive := child.size_pos
      simp only [Rose.sizes] at small
      rw [caught_cons] at crossed
      have later (crossed : caught rest = some reported) : Crosses (child :: rest) reported :=
        (lists rest (by omega) crossed).later
      split at crossed
      · next safe =>
        rcases Option.or_eq_some_iff.mp crossed with inner | ⟨-, after⟩
        · exact .wrap safe (lists child.children (by have := child.sizes_children; omega) inner)
        · exact later after
      · split at crossed
        · exact ⟨child, by simp, [], child, .here _, by simp, here child (by omega) crossed⟩
        · exact later crossed

end Reporting

/-- On the outline of every call tree the scans find the failure that the tree explains: that of a frame which failed,
below empty reverts and recoveries. -/
theorem terminalFailure_explains (tree : Rose CallFrame) :
    terminalFailure (outline CallFrame.trace 0 tree) = .ok (failure tree) ∧
      ∀ reported, failure tree = some reported →
        ∃ passed target, Rose.Path tree passed target ∧ target.label.ownFailure = some reported ∧
          Explained passed ∧
          ((∀ frame ∈ passed, frame.replacesFailure = false) → ∀ frame ∈ passed, frame.ending = .revert []) := by
  refine ⟨terminalFailure_outline tree, fun reported fails => ?_⟩
  obtain ⟨passed, target, path, own, explained⟩ := (reports_of_size_le tree.size).1 tree le_rfl fails
  exact ⟨passed, target, path, own, explained, explained.ending_eq⟩

end WorldChain.Rpc
