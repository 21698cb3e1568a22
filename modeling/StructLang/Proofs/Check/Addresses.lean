import Mathlib.Data.List.Nodup
import StructLang.Proofs.Check.Visits

/-!
# Addresses of visits

Below a node, every visit has an address of its own: those below different children differ in the
number of the child, and none of them is the node's own address. So what is found at an address
is what is found in one visit.
-/

namespace StructLang

/-! ## Nodes below a node -/

theorem not_below_other
    {left right : Nat} {address place : Address} (different : left ≠ right)
    (isBelow : left :: address <:+ place) : ¬ right :: address <:+ place := by
  intro isBelowToo
  have suffix := List.suffix_of_suffix_length_le isBelow isBelowToo (by simp)
  exact different (List.cons.inj (suffix.eq_of_length (by simp))).1

theorem not_below_self
    (index : Nat) (address : Address) : ¬ index :: address <:+ address := fun isBelow =>
  Nat.not_succ_le_self _ isBelow.length_le

/-! ## Distinct addresses -/

section Addresses

variable {alpha : Type}

/-- Things with distinct addresses, all at an address or below. -/
structure Apart (place : alpha → Address) (address : Address) (items : List alpha) : Prop where
  below : ∀ item ∈ items, address <:+ place item
  distinct : (items.map place).Nodup

/-- Things with distinct addresses, all below an address, at children with numbers from some number
on or below those. -/
structure Spread (place : alpha → Address) (address : Address) (low : Nat)
    (items : List alpha) : Prop where
  below : ∀ item ∈ items, ∃ number, low ≤ number ∧ number :: address <:+ place item
  distinct : (items.map place).Nodup

variable {place : alpha → Address} {address : Address} {low : Nat}
  {earlier later items : List alpha}

theorem Apart.nil : Apart place address [] := ⟨List.forall_mem_nil _, List.nodup_nil⟩

theorem Spread.nil : Spread place address low [] := ⟨List.forall_mem_nil _, List.nodup_nil⟩

theorem Spread.append
    (apart : Apart place (low :: address) earlier)
    (spread : Spread place address (low + 1) later) :
    Spread place address low (earlier ++ later) := by
  refine ⟨List.forall_mem_append.mpr ⟨fun item member => ?_, fun item member => ?_⟩, ?_⟩
  · exact ⟨low, Nat.le_refl _, apart.below item member⟩
  · obtain ⟨number, atLeast, isBelow⟩ := spread.below item member
    exact ⟨number, Nat.le_of_succ_le atLeast, isBelow⟩
  · rw [List.map_append]
    refine List.nodup_append.mpr ⟨apart.distinct, spread.distinct, ?_⟩
    intro first isEarlier other isLater same
    obtain ⟨item, member, rfl⟩ := List.mem_map.mp isEarlier
    obtain ⟨itemNext, memberNext, rfl⟩ := List.mem_map.mp isLater
    obtain ⟨number, atLeast, isBelow⟩ := spread.below itemNext memberNext
    exact not_below_other (Nat.ne_of_lt atLeast) (same ▸ apart.below item member) isBelow

theorem Spread.of_child
    (apart : Apart place (low :: address) items) : Spread place address low items := by
  simpa using Spread.append apart Spread.nil

theorem Spread.apart
    (spread : Spread place address low items) : Apart place address items := by
  refine ⟨fun item member => ?_, spread.distinct⟩
  obtain ⟨number, -, isBelow⟩ := spread.below item member
  exact (List.suffix_cons _ _).trans isBelow

/-- The thing at an address comes between things below it. -/
theorem Apart.middle
    (spread : Spread place address 0 (earlier ++ later)) {self : alpha}
    (isSelf : place self = address) :
    Apart place address (earlier ++ self :: later) := by
  have isBelow (item : alpha) (member : item ∈ earlier ++ later) :
      address <:+ place item ∧ place item ≠ address := by
    obtain ⟨number, -, isBelow⟩ := spread.below item member
    exact ⟨(List.suffix_cons _ _).trans isBelow,
      fun same => not_below_self number address (same ▸ isBelow)⟩
  have permutes : List.Perm (earlier ++ self :: later) (self :: (earlier ++ later)) :=
    List.perm_middle
  refine ⟨fun item member => ?_, ?_⟩
  · rcases List.mem_cons.mp (permutes.mem_iff.mp member) with rfl | isOther
    · exact isSelf ▸ List.suffix_refl _
    · exact (isBelow item isOther).1
  · refine (permutes.map place).nodup_iff.mpr (List.nodup_cons.mpr ⟨?_, spread.distinct⟩)
    intro member
    obtain ⟨item, isOther, same⟩ := List.mem_map.mp member
    exact (isBelow item isOther).2 (same.trans isSelf)

theorem Apart.last
    (spread : Spread place address 0 items) {self : alpha} (isSelf : place self = address) :
    Apart place address (items ++ [self]) := by
  have spreadAlone : Spread place address 0 (items ++ []) := by rwa [List.append_nil]
  exact Apart.middle spreadAlone isSelf

theorem Apart.first
    (spread : Spread place address 0 items) {self : alpha} (isSelf : place self = address) :
    Apart place address (self :: items) := by
  have spreadAlone : Spread place address 0 ([] ++ items) := spread
  exact Apart.middle spreadAlone isSelf

theorem Apart.alone
    {self : alpha} (isSelf : place self = address) : Apart place address [self] :=
  Apart.last Spread.nil isSelf

theorem Apart.of_perm
    {permuted : List alpha} (apart : Apart place address items)
    (permutes : List.Perm permuted items) : Apart place address permuted :=
  ⟨fun item member => apart.below item (permutes.mem_iff.mp member),
    (permutes.map place).nodup_iff.mpr apart.distinct⟩

theorem Spread.of_perm
    {permuted : List alpha} (spread : Spread place address low items)
    (permutes : List.Perm permuted items) : Spread place address low permuted :=
  ⟨fun item member => spread.below item (permutes.mem_iff.mp member),
    (permutes.map place).nodup_iff.mpr spread.distinct⟩

/-- Things at distinct addresses are the same as soon as their addresses are. -/
theorem Apart.eq_of_same
    (apart : Apart place address items) {item other : alpha} (member : item ∈ items)
    (memberToo : other ∈ items) (same : place item = place other) : item = other :=
  List.inj_on_of_nodup_map apart.distinct member memberToo same

end Addresses

/-! ## Visits of trees -/

namespace Expr

variable {signature : Signature} {regions : List Region}

/-- The visits of several expressions, numbered from an index on. -/
def visitsOf (signature : Signature) (regions : List Region) (address : Address) (index : Nat)
    (expressions : List Expr) : List Visit :=
  (partsOf address index expressions).map fun part =>
    ⟨signature, regions, part.1, .expression part.2⟩

mutual

theorem apart_visits
    (address : Address) :
    (expression : Expr) → Apart Visit.address address (expression.visits signature regions address)
  | .integer .. | .boolean .. | .name .. => Apart.alone rfl
  | .group items _ => by
      rw [visits, parts, List.map_append]
      exact Apart.last (spread_visitsOf address 0 items) rfl
  | .binary left _ right _ => by
      rw [visits, parts, ← List.append_assoc, List.map_append, List.map_append]
      exact Apart.last (.append (apart_visits _ left) (.of_child (apart_visits _ right))) rfl
  | .unary _ operand _ => by
      rw [visits, parts, List.map_append]
      exact Apart.last (.of_child (apart_visits _ operand)) rfl
  | .index list place _ => by
      rw [visits, parts, ← List.append_assoc, List.map_append, List.map_append]
      exact Apart.last (.append (apart_visits _ list) (.of_child (apart_visits _ place))) rfl
  | .member owner _ _ => by
      rw [visits, parts, List.map_append]
      exact Apart.last (.of_child (apart_visits _ owner)) rfl
  | .size list _ => by
      rw [visits, parts, List.map_append]
      exact Apart.last (.of_child (apart_visits _ list)) rfl
  | .append list element _ => by
      rw [visits, parts, ← List.append_assoc, List.map_append, List.map_append]
      exact Apart.last (.append (apart_visits _ list) (.of_child (apart_visits _ element))) rfl
  | .call callee arguments _ => by
      rw [visits, parts, ← List.append_assoc, List.map_append, List.map_append]
      have apartArguments := (spread_visitsOf (1 :: address) 0 arguments).apart
      exact Apart.last (.append (apart_visits _ callee) (.of_child apartArguments)) rfl
  | .stray _ | .absent => Apart.nil

theorem spread_visitsOf
    (address : Address) (index : Nat) :
    (expressions : List Expr) →
      Spread Visit.address address index (visitsOf signature regions address index expressions)
  | [] => Spread.nil
  | head :: tail => by
      rw [visitsOf, partsOf, List.map_append]
      exact Spread.append (apart_visits _ head) (spread_visitsOf address (index + 1) tail)

end

end Expr

theorem VariableDecl.spread_visitsOf
    {signature : Signature} {here : Region} {outer : List Region} (address : Address)
    (index : Nat) (declarations : List VariableDecl) :
    Spread Visit.address address index
      (visitsOf signature here outer address index declarations) := by
  induction declarations generalizing here index with
  | nil => exact Spread.nil
  | cons head tail inductionHypothesis =>
      have apart : Apart Visit.address (index :: address)
          [⟨signature, here :: outer, index :: address, .declaration head⟩] := Apart.alone rfl
      exact Spread.append apart (inductionHypothesis (index + 1))

namespace Stmt

mutual

theorem apart_visits
    {signature : Signature} {here : Region} {outer : List Region} (address : Address) :
    (statement : Stmt) → Apart Visit.address address (statement.visits signature here outer address)
  | .block statements _ => Apart.last (spread_visitsOf address 0 statements) rfl
  | .declare declared _ => Apart.last (VariableDecl.spread_visitsOf address 0 declared) rfl
  | .assign target value _ => by
      rw [visits, ← List.append_assoc]
      exact Apart.last (.append (target.apart_visits _) (.of_child (value.apart_visits _))) rfl
  | .branch condition thenBody elseBody _ =>
      Apart.middle (.append (condition.apart_visits _)
        (.append (apart_visits _ thenBody) (.of_child (apart_visits _ elseBody)))) rfl
  | .loop condition body _ =>
      Apart.middle (.append (condition.apart_visits _) (.of_child (apart_visits _ body))) rfl
  | .display argument _ => Apart.last (.of_child (argument.apart_visits _)) rfl
  | .append expression _ | .size expression _ | .call expression _ =>
      Apart.last (.of_child (expression.apart_visits _)) rfl
  | .giveBack none _ => Apart.alone rfl
  | .giveBack (some value) _ => Apart.last (.of_child (value.apart_visits _)) rfl
  | .accessor .. | .stray _ | .absent => Apart.nil

theorem spread_visitsOf
    {signature : Signature} {here : Region} {outer : List Region} (address : Address)
    (index : Nat) :
    (statements : List Stmt) →
      Spread Visit.address address index (visitsOf signature here outer address index statements)
  | [] => Spread.nil
  | head :: tail =>
      Spread.append (apart_visits _ head) (spread_visitsOf address (index + 1) tail)

end

end Stmt

end StructLang
