import TierHeap.Proofs.BlockTable
import TierHeap.ProgramHeap

/-!
# Orders

Who uses a heap orders blocks from it and gives them back.  The orders alone tell which blocks
are out, and whether each release and each resize was of a block that was out at that time
(`Order.Due`).  An order keeps to one alignment, so the orders of some alignments are a history
of their own (`Order.loans_filter`, `Order.Due.filter`).
-/

namespace TierHeap

/-- A block that is out, with the layout that it was ordered with. -/
structure Loan where
  addr : Nat
  layout : Layout
  deriving DecidableEq, Repr

/-- What a heap was asked, with the address that came of it. -/
inductive Order where
  | allocate (layout : Layout) (addr : Nat)
  | release (loan : Loan)
  | resize (loan : Loan) (newSize addr : Nat)
  deriving DecidableEq, Repr

namespace Order

def align : Order → Nat
  | .allocate layout _ => layout.align
  | .release loan => loan.layout.align
  | .resize loan _ _ => loan.layout.align

/-- The blocks that are out after an order.  A null address stands for a refused order, which
leaves an old block out. -/
def settle
    (out : List Loan) : Order → List Loan
  | .allocate layout addr => if addr = 0 then out else ⟨addr, layout⟩ :: out
  | .release loan => out.erase loan
  | .resize loan newSize addr =>
      if addr = 0 then out
      else ⟨addr, { loan.layout with size := newSize }⟩ :: out.erase loan

/-- The blocks that are out; the latest order is first. -/
def loans : List Order → List Loan
  | [] => []
  | order :: earlier => order.settle (loans earlier)

/-- The order is due, given the blocks that are out: it names one of them, if any. -/
def Pairs
    (out : List Loan) : Order → Prop
  | .allocate _ _ => True
  | .release loan => loan ∈ out
  | .resize loan _ _ => loan ∈ out

instance (out : List Loan) : DecidablePred (Pairs out)
  | .allocate _ _ => inferInstanceAs (Decidable True)
  | .release loan => inferInstanceAs (Decidable (loan ∈ out))
  | .resize loan _ _ => inferInstanceAs (Decidable (loan ∈ out))

/-- Every order was due at its time. -/
def Due : List Order → Prop
  | [] => True
  | order :: earlier => order.Pairs (loans earlier) ∧ Due earlier

section

variable {keep : Nat → Bool} {order : Order}

theorem filter_settle_of_kept
    (kept : keep order.align = true)
    (out : List Loan) :
    (order.settle out).filter (fun loan => keep loan.layout.align) =
      order.settle (out.filter fun loan => keep loan.layout.align) := by
  cases order with
  | allocate layout addr =>
      have kept : keep layout.align = true := kept
      simp only [settle]
      split
      · rfl
      · rw [List.filter_cons, if_pos kept]
  | release loan =>
      exact (List.erase_filter ..).symm
  | resize loan newSize addr =>
      have kept : keep loan.layout.align = true := kept
      simp only [settle]
      split
      · rfl
      · rw [List.filter_cons, if_pos kept, List.erase_filter]

/-- An order changes the loans of its own alignment alone. -/
theorem filter_settle_of_dropped
    (dropped : ¬keep order.align = true)
    (out : List Loan) :
    (order.settle out).filter (fun loan => keep loan.layout.align) =
      out.filter fun loan => keep loan.layout.align := by
  have others {loan : Loan} (other : ¬keep loan.layout.align = true) :
      (out.erase loan).filter (fun loan => keep loan.layout.align) =
        out.filter fun loan => keep loan.layout.align := by
    rw [← List.erase_filter]
    exact List.erase_of_not_mem fun member => other (List.mem_filter.mp member).2
  cases order with
  | allocate layout addr =>
      have dropped : ¬keep layout.align = true := dropped
      simp only [settle]
      split
      · rfl
      · rw [List.filter_cons, if_neg dropped]
  | release loan =>
      exact others dropped
  | resize loan newSize addr =>
      have dropped : ¬keep loan.layout.align = true := dropped
      simp only [settle]
      split
      · rfl
      · rw [List.filter_cons, if_neg dropped, others dropped]

variable (keep)

theorem loans_filter (orders : List Order) :
    loans (orders.filter fun order => keep order.align) =
      (loans orders).filter fun loan => keep loan.layout.align := by
  induction orders with
  | nil =>
      rfl
  | cons order earlier inductionHypothesis =>
      by_cases kept : keep order.align = true
      · rw [List.filter_cons, if_pos kept, loans, loans, filter_settle_of_kept kept,
          inductionHypothesis]
      · rw [List.filter_cons, if_neg kept, loans, filter_settle_of_dropped kept,
          inductionHypothesis]

theorem Due.filter
    {orders : List Order}
    (due : Due orders) :
    Due (orders.filter fun order => keep order.align) := by
  induction orders with
  | nil =>
      trivial
  | cons order earlier inductionHypothesis =>
      obtain ⟨pairs, dueEarlier⟩ := due
      by_cases same : keep order.align = true
      · rw [List.filter_cons, if_pos same]
        refine ⟨?_, inductionHypothesis dueEarlier⟩
        rw [loans_filter]
        cases order with
        | allocate =>
            trivial
        | release | resize =>
            exact List.mem_filter.mpr ⟨pairs, same⟩
      · rw [List.filter_cons, if_neg same]
        exact inductionHypothesis dueEarlier

end

end Order

/-- A heap whose orders are written down, latest first. -/
structure Traced (σ : Type) where
  heap : σ
  orders : List Order

namespace Traced

variable {σ : Type}

/-- The blocks that are out. -/
def loans (traced : Traced σ) : List Loan :=
  Order.loans traced.orders

instance [SystemHeap σ] : SystemHeap (Traced σ) where
  allocate traced layout :=
    let (addr, heap) := SystemHeap.allocate traced.heap layout
    (addr, ⟨heap, .allocate layout addr :: traced.orders⟩)
  release traced addr layout :=
    ⟨SystemHeap.release traced.heap addr layout, .release ⟨addr, layout⟩ :: traced.orders⟩
  resize traced addr layout newSize :=
    let (fresh, heap) := SystemHeap.resize traced.heap addr layout newSize
    (fresh, ⟨heap, .resize ⟨addr, layout⟩ newSize fresh :: traced.orders⟩)

end Traced

/-- A block is as a layout asks for it. -/
structure Block.Serves
    (block : Block)
    (layout : Layout) : Prop where
  aligned : layout.align ∣ block.addr
  fits : layout.size ≤ block.reserved

namespace BlockTable

/-- The blocks of a table are those behind a list of loans, and are as these ask for. -/
structure Backs
    (table : BlockTable)
    (loans : List Loan) : Prop where
  filed : table.Filed
  addrs : (loans.map Loan.addr).Perm (table.blocks.map Block.addr)
  serves : ∀ loan ∈ loans, ∃ block, table.get? loan.addr = some block ∧ block.Serves loan.layout

theorem backs_empty : empty.Backs [] where
  filed := filed_empty
  addrs := by
    rw [blocks_empty]
    rfl
  serves := nofun

namespace Backs

variable {table : BlockTable} {loans : List Loan}

theorem perm
    (backs : table.Backs loans)
    {reordered : List Loan}
    (same : loans.Perm reordered) :
    table.Backs reordered where
  filed := backs.filed
  addrs := (same.symm.map Loan.addr).trans backs.addrs
  serves loan member := backs.serves loan (same.mem_iff.mpr member)

theorem insert
    (backs : table.Backs loans)
    {block : Block}
    (absent : table.get? block.addr = none)
    {layout : Layout}
    (serves : block.Serves layout) :
    (table.insert block).2.Backs (⟨block.addr, layout⟩ :: loans) where
  filed := backs.filed.insert block
  addrs := (backs.addrs.cons block.addr).trans ((insert_perm absent).map Block.addr).symm
  serves loan member := by
    rcases List.mem_cons.mp member with rfl | old
    · exact ⟨block, by rw [get?_insert, if_pos rfl], serves⟩
    · obtain ⟨held, found, fits⟩ := backs.serves loan old
      have other : loan.addr ≠ block.addr := by
        intro same
        rw [same, absent] at found
        cases found
      exact ⟨held, by rw [get?_insert, if_neg other, found], fits⟩

variable {loan : Loan}

theorem found (backs : table.Backs (loan :: loans)) :
    ∃ block, table.get? loan.addr = some block ∧ block.Serves loan.layout :=
  backs.serves loan List.mem_cons_self

/-- No other loan has the address of a block that is taken out. -/
theorem others
    (backs : table.Backs (loan :: loans)) :
    (loans.map Loan.addr).Perm ((table.remove loan.addr).2.blocks.map Block.addr) ∧
      ∀ other ∈ loans, other.addr ≠ loan.addr := by
  obtain ⟨block, found, -⟩ := backs.found
  have sameAddr := backs.filed.get?_addr found
  have rest : (loans.map Loan.addr).Perm ((table.remove loan.addr).2.blocks.map Block.addr) := by
    have whole := backs.addrs.trans ((remove_perm found).map Block.addr)
    rw [List.map_cons, List.map_cons, sameAddr] at whole
    exact whole.cons_inv
  refine ⟨rest, fun other member same => ?_⟩
  obtain ⟨held, heldMember, heldAddr⟩ :=
    List.mem_map.mp (rest.mem_iff.mp (List.mem_map_of_mem member))
  have present := (backs.filed.remove loan.addr).mem_blocks_iff.mp heldMember
  rw [heldAddr, same, get?_remove, if_pos rfl] at present
  cases present

theorem remove (backs : table.Backs (loan :: loans)) :
    (table.remove loan.addr).2.Backs loans := by
  obtain ⟨addrs, apart⟩ := backs.others
  refine ⟨backs.filed.remove loan.addr, addrs, fun other member => ?_⟩
  obtain ⟨held, found, fits⟩ := backs.serves other (List.mem_cons_of_mem loan member)
  exact ⟨held, by rw [get?_remove, if_neg (apart other member), found], fits⟩

theorem modify
    (backs : table.Backs (loan :: loans))
    {block : Block}
    (found : table.get? loan.addr = some block)
    {change : Block → Block}
    (keeps : ∀ block, (change block).addr = block.addr)
    {layout : Layout}
    (serves : (change block).Serves layout) :
    (table.modify loan.addr change).Backs (⟨loan.addr, layout⟩ :: loans) := by
  obtain ⟨addrs, apart⟩ := backs.others
  have sameAddr := backs.filed.get?_addr found
  refine ⟨backs.filed.modify keeps, ?_, fun other member => ?_⟩
  · refine List.Perm.trans ?_ ((modify_perm found change).map Block.addr).symm
    rw [List.map_cons, List.map_cons, keeps, sameAddr]
    exact addrs.cons loan.addr
  · rcases List.mem_cons.mp member with rfl | old
    · exact ⟨change block, by rw [get?_modify, if_pos rfl, found]; rfl, serves⟩
    · obtain ⟨held, heldFound, fits⟩ := backs.serves other (List.mem_cons_of_mem loan old)
      exact ⟨held, by rw [get?_modify, if_neg (apart other old), heldFound], fits⟩

end Backs

end BlockTable

end TierHeap
